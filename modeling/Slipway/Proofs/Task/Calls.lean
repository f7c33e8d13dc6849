import Slipway.Proofs.Task.Obstacles
import Mathlib.Data.List.Perm.Subperm

/-!
# The calls of a search

The search for a plan as it works on a stack: a call pushes the name of its task, makes one call for
each dependency, and takes the name off again. Nothing in this recursion gets smaller, so it is run
here with a bound on the depth of calls within calls, and it has no result where the bound is too
low. One call more than there are tasks is deep enough for every registry (`search_ends`): the names
on the stack are those of different tasks, so there is no room for more.

Every call finds a stack that leads from task to task along dependencies and shares no name with
what is finished (`Call.Sound`). For the calls after the first this rests on the earlier ones having
put the stack back (`stack_of_search`) and having finished nothing that is on it (`visit_grows`).
-/

namespace Slipway.Registry

/-! ### The search on a stack -/

/-- What a search works on. -/
structure Search where
  /-- The names of the tasks whose dependencies are being finished, the latest last. -/
  stack : List String := []
  progress : Progress := {}

namespace Search

/-- The name of a task is put on the stack. -/
def push (s : Search) (t : Task) : Search :=
  { s with stack := s.stack ++ [t.name] }

/-- The latest name is taken off the stack, and its task is finished. -/
def finish (s : Search) (t : Task) : Search :=
  ⟨s.stack.dropLast, ⟨t.name :: s.progress.done, s.progress.order ++ [t]⟩⟩

end Search

/-- A call of the search: the name that it is asked for, and what it finds. -/
structure Call where
  name : String
  found : Search

/-- What a call comes to. -/
structure Return where
  result : Except Failure Unit
  left : Search
  /-- The call and all calls within it, in the order in which they are made. -/
  calls : List Call

/-- What a call comes to after the calls for the dependencies of its task. -/
def Return.around (within : Return) (c : Call) (t : Task) : Return where
  result := within.result
  left := match within.result with
    | .ok () => within.left.finish t
    | .error _ => within.left
  calls := c :: within.calls

/-- One call for each of the names, up to the first that fails. -/
def inTurn (r : Registry) (ask : String → Search → Option Return) (owner : String) :
    List String → Search → Option Return
  | [], s => some ⟨.ok (), s, []⟩
  | name :: rest, s =>
    if (r.resolve? name).isSome then
      (ask name s).bind fun first =>
        match first.result with
        | .error _ => some first
        | .ok () => (inTurn r ask owner rest first.left).map fun later =>
          { later with calls := first.calls ++ later.calls }
    else some ⟨.error ⟨.unknownTask name, some ("dependency of '" ++ owner ++ "'")⟩, s, []⟩

/-- A call of the search, unless calls within calls go deeper than `depth`. -/
def search (r : Registry) : (depth : Nat) → String → Search → Option Return
  | 0, _, _ => none
  | depth + 1, name, s =>
    match r.resolve? name with
    | none => some ⟨.error ⟨.unknownTask name, none⟩, s, [⟨name, s⟩]⟩
    | some t =>
      if t.name ∈ s.progress.done then some ⟨.ok (), s, [⟨name, s⟩]⟩
      else if t.name ∈ s.stack then
        let chain := s.stack.dropWhile (· != t.name) ++ [t.name]
        some ⟨.error ⟨.dependencyCycle chain, none⟩, s, [⟨name, s⟩]⟩
      else
        (inTurn r (search r depth) t.name t.dependencies (s.push t)).map fun within =>
          within.around ⟨name, s⟩ t

/-- What every call finds. -/
structure Call.Sound (r : Registry) (c : Call) : Prop where
  /-- The stack leads along dependencies to what the call is asked for. -/
  chain : ∃ tasks : List Task, c.found.stack = tasks.map (·.name) ∧
    (∀ t ∈ tasks, r.find? t.name = some t) ∧ tasks.IsChain r.Needs ∧
    ∀ t ∈ tasks.getLast?, c.name ∈ t.dependencies
  nodup : c.found.stack.Nodup
  apart : ∀ n ∈ c.found.stack, n ∉ c.found.progress.done
  length_le : c.found.stack.length ≤ r.tasks.length
  closed : ∀ n ∈ c.found.progress.done, ∃ t, r.find? n = some t ∧
    ∀ d ∈ t.dependencies, ∃ u, r.resolve? d = some u ∧ u.name ∈ c.found.progress.done
  mem_done : ∀ n, n ∈ c.found.progress.done ↔ n ∈ c.found.progress.order.map (·.name)

variable {r : Registry} {root t u : Task} {tasks : List Task} {names way : List String}
  {name owner : String} {s : Search} {ret : Return} {depth : Nat} {p q : Progress}
  {ask : String → Search → Option Return}

/-! ### One step of the search -/

theorem search_of_resolve? (h : r.resolve? name = some t) (depth : Nat) (s : Search) :
    r.search (depth + 1) name s =
      if t.name ∈ s.progress.done then some ⟨.ok (), s, [⟨name, s⟩]⟩
      else if t.name ∈ s.stack then
        some ⟨.error ⟨.dependencyCycle (s.stack.dropWhile (· != t.name) ++ [t.name]), none⟩, s,
          [⟨name, s⟩]⟩
      else (r.inTurn (r.search depth) t.name t.dependencies (s.push t)).map
        (·.around ⟨name, s⟩ t) := by
  rw [search, h]

theorem search_of_resolve?_eq_none (h : r.resolve? name = none) (depth : Nat) (s : Search) :
    r.search (depth + 1) name s =
      some ⟨.error ⟨.unknownTask name, none⟩, s, [⟨name, s⟩]⟩ := by
  rw [search, h]

theorem inTurn_cons_of_error {f : Failure} (hs : (r.resolve? name).isSome)
    (ha : ask name s = some ret) (hf : ret.result = .error f) :
    r.inTurn ask owner (name :: names) s = some ret := by
  rw [inTurn, if_pos hs, ha, Option.bind_some, hf]

theorem inTurn_cons_of_ok (hs : (r.resolve? name).isSome) (ha : ask name s = some ret)
    (hok : ret.result = .ok ()) :
    r.inTurn ask owner (name :: names) s = (r.inTurn ask owner names ret.left).map fun later =>
      { later with calls := ret.calls ++ later.calls } := by
  rw [inTurn, if_pos hs, ha, Option.bind_some, hok]

/-- What one call for each of some names can come to. -/
theorem inTurn_cons_cases (h : r.inTurn ask owner (name :: names) s = some ret) :
    ((r.resolve? name).isSome ∧ ∃ first, ask name s = some first ∧
        ((∃ f, first.result = .error f ∧ ret = first) ∨
          (first.result = .ok () ∧ ∃ later, r.inTurn ask owner names first.left = some later ∧
            ret = { later with calls := first.calls ++ later.calls }))) ∨
      (¬ (r.resolve? name).isSome ∧
        ret = ⟨.error ⟨.unknownTask name, some ("dependency of '" ++ owner ++ "'")⟩, s, []⟩) := by
  by_cases hs : (r.resolve? name).isSome
  · cases ha : ask name s with
    | none => rw [inTurn, if_pos hs, ha] at h; cases h
    | some first =>
      refine .inl ⟨hs, first, rfl, ?_⟩
      cases hres : first.result with
      | error f =>
        rw [inTurn_cons_of_error hs ha hres] at h
        exact .inl ⟨f, rfl, (Option.some.inj h).symm⟩
      | ok =>
        rw [inTurn_cons_of_ok hs ha hres] at h
        obtain ⟨later, hlater, he⟩ := Option.map_eq_some_iff.1 h
        exact .inr ⟨rfl, later, hlater, he.symm⟩
  · rw [inTurn, if_neg hs] at h
    exact .inr ⟨hs, (Option.some.inj h).symm⟩

/-! ### More depth -/

theorem inTurn_mono {ask' : String → Search → Option Return}
    (h : ∀ name s ret, ask name s = some ret → ask' name s = some ret)
    (hret : r.inTurn ask owner names s = some ret) : r.inTurn ask' owner names s = some ret := by
  induction names generalizing s ret with
  | nil => exact hret
  | cons name rest ih =>
    obtain ⟨hs, first, ha, ⟨f, hf, rfl⟩ | ⟨hok, later, hlater, rfl⟩⟩ | ⟨hs, rfl⟩ :=
      inTurn_cons_cases hret
    · exact inTurn_cons_of_error hs (h _ _ _ ha) hf
    · rw [inTurn_cons_of_ok hs (h _ _ _ ha) hok, ih hlater]; rfl
    · rw [inTurn, if_neg hs]

/-- A search that has a result has the same with more depth. -/
theorem search_mono {depth' : Nat} (h : r.search depth name s = some ret) (hd : depth ≤ depth') :
    r.search depth' name s = some ret := by
  induction depth generalizing name s ret depth' with
  | zero => cases h
  | succ depth ih =>
    obtain ⟨depth', rfl⟩ := Nat.exists_eq_add_of_le' (Nat.le_trans (Nat.le_add_left 1 depth) hd)
    cases ht : r.resolve? name with
    | none => rw [search_of_resolve?_eq_none ht] at h ⊢; exact h
    | some t =>
      rw [search_of_resolve? ht] at h ⊢
      split
      · next hdone => rw [if_pos hdone] at h; exact h
      · next hdone =>
        rw [if_neg hdone] at h
        split
        · next hmet => rw [if_pos hmet] at h; exact h
        · next hmet =>
          rw [if_neg hmet] at h
          obtain ⟨within, hw, rfl⟩ := Option.map_eq_some_iff.1 h
          have hw' : r.inTurn (r.search depth') t.name t.dependencies (s.push t) = some within :=
            inTurn_mono (fun _ _ _ h => ih h (Nat.le_of_succ_le_succ hd)) hw
          rw [hw']; rfl

/-! ### The stack is put back -/

theorem stack_of_inTurn
    (h : ∀ name s ret, ask name s = some ret → ret.result = .ok () → ret.left.stack = s.stack)
    (hret : r.inTurn ask owner names s = some ret) (hok : ret.result = .ok ()) :
    ret.left.stack = s.stack := by
  induction names generalizing s ret with
  | nil => rw [← Option.some.inj hret]
  | cons name rest ih =>
    obtain ⟨hs, first, ha, ⟨f, hf, rfl⟩ | ⟨hok', later, hlater, rfl⟩⟩ | ⟨hs, rfl⟩ :=
      inTurn_cons_cases hret
    · rw [hf] at hok; cases hok
    · exact (ih hlater hok).trans (h _ _ _ ha hok')
    · cases hok

/-- A call that ends well leaves the stack as it has found it. -/
theorem stack_of_search (h : r.search depth name s = some ret) (hok : ret.result = .ok ()) :
    ret.left.stack = s.stack := by
  induction depth generalizing name s ret with
  | zero => cases h
  | succ depth ih =>
    cases ht : r.resolve? name with
    | none =>
      rw [search_of_resolve?_eq_none ht] at h
      rw [← Option.some.inj h]
    | some t =>
      rw [search_of_resolve? ht] at h
      split at h
      · rw [← Option.some.inj h]
      · split at h
        · rw [← Option.some.inj h]
        · obtain ⟨within, hw, rfl⟩ := Option.map_eq_some_iff.1 h
          have hwithin : within.result = .ok () := hok
          have hstack := stack_of_inTurn (fun _ _ _ => ih) hw hwithin
          rw [Return.around, hwithin]
          show within.left.stack.dropLast = s.stack
          rw [hstack, Search.push, List.dropLast_concat]

/-! ### What every call finds -/

theorem cycle_eq_of_nodup (hnd : way.Nodup) (hm : name ∈ way) :
    cycle way name = way.reverse.dropWhile (· != name) ++ [name] := by
  obtain ⟨later, before, rfl⟩ := List.append_of_mem hm
  obtain ⟨-, hbefore, hne⟩ := List.nodup_append.1 hnd
  have hlater : ∀ n ∈ later, (n != name) = true := fun n hn =>
    bne_iff_ne.2 (hne n hn name List.mem_cons_self)
  have hbefore : ∀ n ∈ before.reverse, (n != name) = true := fun n hn =>
    bne_iff_ne.2 fun he => (List.nodup_cons.1 hbefore).1 (he ▸ List.mem_reverse.1 hn)
  rw [cycle, List.takeWhile_append_of_pos hlater, List.takeWhile_cons_of_neg (by simp),
    List.append_nil, List.reverse_append, List.reverse_cons, List.append_assoc,
    List.dropWhile_append_of_pos hbefore, List.singleton_append,
    List.dropWhile_cons_of_neg (by simp), List.cons_append]

/-- There are no more tasks on the way than there are tasks. -/
theorem Descent.length_le (h : r.Descent root tasks) : tasks.length ≤ r.tasks.length :=
  (List.Nodup.subperm (h.nodup.of_map _) fun u hu => mem_of_find? (h.found u hu)).length_le

/-- The search has gone down these tasks, the latest first, and has finished none of them. -/
structure Search.On (r : Registry) (root : Task) (tasks : List Task) (s : Search) : Prop where
  stack : s.stack = (tasks.map (·.name)).reverse
  descent : r.Descent root tasks
  sound : s.progress.Sound r
  apart : ∀ u ∈ tasks, u.name ∉ s.progress.done

namespace Search.On

theorem mem_stack (h : s.On r root tasks) {n : String} :
    n ∈ s.stack ↔ n ∈ tasks.map (·.name) := by
  rw [h.stack, List.mem_reverse]

theorem call (h : s.On r root tasks) (hn : ∀ u ∈ tasks.head?, name ∈ u.dependencies) :
    Call.Sound r ⟨name, s⟩ where
  chain := by
    refine ⟨tasks.reverse, by rw [List.map_reverse]; exact h.stack,
      fun u hu => h.descent.found u (List.mem_reverse.1 hu), ?_, ?_⟩
    · rw [List.isChain_reverse]; exact h.descent.needs
    · rw [List.getLast?_reverse]; exact hn
  nodup := by
    show s.stack.Nodup
    rw [h.stack, List.nodup_reverse]; exact h.descent.nodup
  apart n hm := by
    obtain ⟨u, hu, rfl⟩ := List.mem_map.1 (h.mem_stack.1 hm)
    exact h.apart u hu
  length_le := by
    show s.stack.length ≤ _
    rw [h.stack, List.length_reverse, List.length_map]; exact h.descent.length_le
  closed n hm := by
    obtain ⟨t, ht, rfl⟩ := List.mem_map.1 ((h.sound.mem_done n).1 hm)
    refine ⟨t, h.sound.ordered.found t ht, fun d hd => ?_⟩
    obtain ⟨before, later, he⟩ := List.append_of_mem ht
    obtain ⟨u, hu, hdu⟩ := h.sound.ordered.after before t later he d hd
    refine ⟨u, hdu, (h.sound.mem_done _).2 (List.mem_map_of_mem ?_)⟩
    rw [he]; exact List.mem_append_left _ hu
  mem_done := h.sound.mem_done

theorem push (h : s.On r root tasks) (hf : r.find? t.name = some t) (hr : r.Reaches root t)
    (hn : ∀ u ∈ tasks.head?, r.Needs u t) (hdone : t.name ∉ s.progress.done)
    (hmet : t.name ∉ s.stack) : (s.push t).On r root (t :: tasks) where
  stack := by
    show s.stack ++ [t.name] = _
    rw [h.stack, List.map_cons, List.reverse_cons]
  descent := h.descent.cons hf hr hn (mt h.mem_stack.2 hmet)
  sound := h.sound
  apart u hu := by
    rcases List.mem_cons.1 hu with rfl | hu
    · exact hdone
    · exact h.apart u hu

/-- A call below the way finishes nothing that is on it. -/
theorem after (h : s.On r root tasks) (hv : r.visit (tasks.map (·.name)) name s.progress = .ok q) :
    Search.On r root tasks ⟨s.stack, q⟩ := by
  obtain ⟨t, -, -, hg⟩ := (visit_grows r).1 _ name s.progress h.sound q hv
  obtain ⟨more, hmore, hnew⟩ := hg.more
  refine ⟨h.stack, h.descent, hg.sound, fun u hu hdone => ?_⟩
  rw [hg.sound.mem_done, hmore, List.map_append, List.mem_append, ← h.sound.mem_done] at hdone
  rcases hdone with hdone | hdone
  · exact h.apart u hu hdone
  · obtain ⟨w, hw, he⟩ := List.mem_map.1 hdone
    exact (hnew w hw).1 (by rw [show w.name = u.name from he]; exact List.mem_map_of_mem hu)

end Search.On

/-- The outcome is the expected one, and every call has found what it should. -/
structure Return.Follows (r : Registry) (expected : Except Failure Progress) (ret : Return) :
    Prop where
  agrees : expected = ret.result.map fun _ => ret.left.progress
  calls : ∀ c ∈ ret.calls, c.Sound r

/-- For a dependency of `u`, the latest task on the way, `ask` follows the visit and puts the stack
back. -/
def Answers (r : Registry) (root u : Task) (tasks : List Task)
    (ask : String → Search → Option Return) : Prop :=
  ∀ name t s, Search.On r root (u :: tasks) s → r.resolve? name = some t →
    name ∈ u.dependencies → ∃ ret, ask name s = some ret ∧
      ret.Follows r (r.visit ((u :: tasks).map (·.name)) name s.progress) ∧
      (ret.result = .ok () → ret.left.stack = s.stack)

theorem inTurn_follows (hask : r.Answers root u tasks ask)
    (hnames : ∀ d ∈ names, d ∈ u.dependencies) (hs : s.On r root (u :: tasks)) :
    ∃ ret, r.inTurn ask u.name names s = some ret ∧
      ret.Follows r (r.visitAll ((u :: tasks).map (·.name)) u.name names s.progress) := by
  induction names generalizing s with
  | nil => exact ⟨_, rfl, by rw [visitAll_nil]; rfl, nofun⟩
  | cons name rest ih =>
    cases ht : r.resolve? name with
    | none =>
      refine ⟨_, by rw [inTurn, if_neg (by simp [ht])], ?_, fun c hc => absurd hc List.not_mem_nil⟩
      rw [visitAll_cons_of_unresolved ht]; rfl
    | some t =>
      have hsome : (r.resolve? name).isSome := by rw [ht]; rfl
      obtain ⟨first, ha, hfirst, hstack⟩ := hask name t s hs ht (hnames name List.mem_cons_self)
      rw [visitAll_cons ht]
      cases hres : first.result with
      | error f =>
        refine ⟨first, inTurn_cons_of_error hsome ha hres, ?_, hfirst.calls⟩
        rw [hfirst.agrees, hres]; rfl
      | ok =>
        have hv : r.visit ((u :: tasks).map (·.name)) name s.progress =
            .ok first.left.progress := by
          rw [hfirst.agrees, hres]; rfl
        have hleft : first.left.On r root (u :: tasks) := by
          have hafter := hs.after hv
          rw [← hstack hres] at hafter
          exact hafter
        obtain ⟨later, hlater, hl⟩ :=
          ih (fun d hd => hnames d (List.mem_cons_of_mem _ hd)) hleft
        refine ⟨_, by rw [inTurn_cons_of_ok hsome ha hres, hlater]; rfl, ?_, fun c hc => ?_⟩
        · rw [hv]; exact hl.agrees
        · rcases List.mem_append.1 hc with hc | hc
          · exact hfirst.calls c hc
          · exact hl.calls c hc

theorem search_follows (hs : s.On r root tasks) (ht : r.resolve? name = some t)
    (hr : r.Reaches root t) (hn : ∀ u ∈ tasks.head?, name ∈ u.dependencies)
    (hd : r.tasks.length < depth + tasks.length) :
    ∃ ret, r.search depth name s = some ret ∧
      ret.Follows r (r.visit (tasks.map (·.name)) name s.progress) := by
  induction depth generalizing tasks t name s with
  | zero =>
    -- there are no tasks left that could be on the way
    exact absurd hs.descent.length_le (by omega)
  | succ depth ih =>
    have hcall : Call.Sound r ⟨name, s⟩ := hs.call hn
    have hf := find?_name_of_resolve? ht
    have hneeds : ∀ u ∈ tasks.head?, r.Needs u t := fun u hu => ⟨name, hn u hu, ht⟩
    rw [search_of_resolve? ht, visit_of_resolve? ht]
    by_cases hdone : t.name ∈ s.progress.done
    · rw [if_pos hdone, if_pos hdone]
      exact ⟨_, rfl, rfl, List.forall_mem_singleton.2 hcall⟩
    rw [if_neg hdone, if_neg hdone]
    by_cases hmet : t.name ∈ s.stack
    · rw [if_pos hmet, if_pos (hs.mem_stack.1 hmet),
        cycle_eq_of_nodup hs.descent.nodup (hs.mem_stack.1 hmet), ← hs.stack]
      exact ⟨_, rfl, rfl, List.forall_mem_singleton.2 hcall⟩
    rw [if_neg hmet, if_neg (mt hs.mem_stack.2 hmet)]
    have hpush := hs.push hf hr hneeds hdone hmet
    have hask : r.Answers root t tasks (r.search depth) := by
      intro d u s' hs' hu hdep
      have hlast : ∀ v ∈ (t :: tasks).head?, d ∈ v.dependencies := by
        intro v hv
        rw [← Option.some.inj hv]; exact hdep
      obtain ⟨ret, hret, hfollows⟩ := ih hs' hu (hr.tail ⟨d, hdep, hu⟩) hlast
        (by rw [List.length_cons]; omega)
      exact ⟨ret, hret, hfollows, stack_of_search hret⟩
    obtain ⟨within, hw, hwithin⟩ := inTurn_follows hask (fun _ h => h) hpush
    refine ⟨_, by rw [hw]; rfl, ?_, List.forall_mem_cons.2 ⟨hcall, hwithin.calls⟩⟩
    have hv : r.visitAll (t.name :: tasks.map (·.name)) t.name t.dependencies s.progress =
        within.result.map fun _ => within.left.progress := hwithin.agrees
    rw [hv]
    obtain ⟨result, left, calls⟩ := within
    cases result <;> rfl

/-- The search comes to an end for every registry and every name, with calls no deeper than there
are tasks and one more, and more depth changes nothing. It ends as the plan does. Every call that it
makes finds a stack of different registered tasks each of which depends on the next, no longer than
there are tasks and apart from what is finished, which is closed under dependencies and what the
order lists. A call that ends well leaves the stack that it has found. -/
theorem search_ends (r : Registry) (name : String) :
    (∃ ret, (∀ depth, r.tasks.length < depth → r.search depth name {} = some ret) ∧
      r.visit [] name {} = ret.result.map (fun _ => ret.left.progress) ∧
      ∀ c ∈ ret.calls, c.Sound r) ∧
    ∀ depth asked found ret, r.search depth asked found = some ret → ret.result = .ok () →
      ret.left.stack = found.stack := by
  refine ⟨?_, fun depth asked found ret => stack_of_search⟩
  suffices h : ∃ ret, r.search (r.tasks.length + 1) name {} = some ret ∧
      ret.Follows r (r.visit [] name {}) by
    obtain ⟨ret, hret, hf⟩ := h
    exact ⟨ret, fun depth hd => search_mono hret hd, hf.agrees, hf.calls⟩
  have hon : ∀ root, Search.On r root [] {} := fun root =>
    ⟨rfl, .nil, Progress.sound_empty, nofun⟩
  cases ht : r.resolve? name with
  | none =>
    -- no task is on the way, so any will do for the first
    have hcall : Call.Sound r ⟨name, {}⟩ := (hon ⟨name, "", [], .commands []⟩).call nofun
    refine ⟨_, search_of_resolve?_eq_none ht _ _, ?_, List.forall_mem_singleton.2 hcall⟩
    rw [visit_of_resolve?_eq_none ht]; rfl
  | some t => exact search_follows (hon t) ht .refl nofun (by simp)

/-- A cycle, which the third call meets, and a call that comes back to a stack that is not empty. -/
theorem search_ends_cycle :
    let first : Task := ⟨"first", "", ["Second"], .commands []⟩
    let second : Task := ⟨"second", "", ["first"], .commands []⟩
    let third : Task := ⟨"third", "", [], .commands []⟩
    let r : Registry := ⟨[first, second, third]⟩
    (∃ ret, r.search 4 "first" {} = some ret ∧
      ret.result = .error ⟨.dependencyCycle ["first", "second", "first"], none⟩ ∧
      ret.calls.map (·.found.stack) = [[], ["first"], ["first", "second"]] ∧
      ∀ c ∈ ret.calls, c.Sound r) ∧
    ∃ ret, r.search 1 "third" ⟨["first"], {}⟩ = some ret ∧ ret.left.stack = ["first"] := by
  intro first second third r
  obtain ⟨⟨ret, hret, -, hsound⟩, hstack⟩ := search_ends r "first"
  have hcycle : ∃ ret, r.search 4 "first" {} = some ret ∧
      ret.result = .error ⟨.dependencyCycle ["first", "second", "first"], none⟩ ∧
      ret.calls.map (·.found.stack) = [[], ["first"], ["first", "second"]] := ⟨_, rfl, rfl, rfl⟩
  obtain ⟨ret', hret', hres, hcalls⟩ := hcycle
  obtain rfl : ret = ret' := Option.some.inj ((hret 4 (by decide)).symm.trans hret')
  exact ⟨⟨ret, hret', hres, hcalls, hsound⟩, _, rfl, hstack 1 "third" ⟨["first"], {}⟩ _ rfl rfl⟩

end Slipway.Registry
