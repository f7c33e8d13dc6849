import Mathlib.Data.List.TakeWhile
import Slipway.FileTree
import Slipway.Proofs.Text.Separators

/-!
# Paths and the directories they lead to

Without links a path that can be followed leads where its names lead, taken one after the other
(`FileTree.eq_leadsTo_of_resolve`). The ancestors of a path are found in its text: each of them has
the first names of the path (`Path.namesOf_prefix_of_mem_ancestors`) and starts where it starts, so
the path leads on from where the ancestor leads (`FileTree.leadsTo_of_mem_ancestors`).

Steps amount to a `Route`, some way up and some names down. It leads to a place below the directory
it starts from if it enters again whatever it has left (`Route.prefix_follow_iff`).
-/

namespace Slipway

/-! ### The names of a path -/

namespace Path

open FileTree (namesOf)

variable {p q dir : Path} {l : List Char}

/-- The names that some characters of a path spell out. -/
def spelled (l : List Char) : List String :=
  ((Text.piecesAt '/' l).map String.ofList).filter fun name => name != "" && name != "."

theorem namesOf_eq_spelled (p : Path) : namesOf p = spelled p.toList := rfl

theorem spelled_nil : spelled [] = [] := rfl

theorem spelled_append_slash (a b : List Char) :
    spelled (a ++ '/' :: b) = spelled a ++ spelled b := by
  simp only [spelled, Text.piecesAt_eq_splitOn, List.splitOn_append_cons_self, List.map_append,
    List.filter_append]

theorem spelled_dropTrailing (l : List Char) :
    spelled (dropTrailing l).reverse = spelled l.reverse := by
  fun_induction dropTrailing l with
  | case1 => rfl
  | case2 r _ ih =>
    rw [ih, List.reverse_cons, spelled_append_slash]
    exact (List.append_nil _).symm
  | case3 => rfl
  | case4 r ih =>
    have hpoint : spelled ['.'] = spelled [] := by decide
    rw [ih, List.reverse_cons, List.reverse_cons, List.reverse_cons, List.append_assoc,
      spelled_append_slash, ← hpoint]
    exact (spelled_append_slash r.reverse ['.']).symm
  | case5 => rfl

theorem parent?_eq_some (h : parent? p = some q) :
    q.toList.reverse =
      dropTrailing ((dropTrailing p.toList.reverse).dropWhile (· != '/')) := by
  rw [parent?] at h
  split at h
  · cases h
  · cases h
  · rw [← Option.some.inj h, String.toList_ofList, List.reverse_reverse]

theorem namesOf_of_parent? (h : parent? p = some q) : namesOf q <+: namesOf p := by
  have hq : spelled q.toList =
      spelled ((dropTrailing p.toList.reverse).dropWhile (· != '/')).reverse := by
    rw [← spelled_dropTrailing, ← parent?_eq_some h, List.reverse_reverse]
  have hp : spelled p.toList = spelled (dropTrailing p.toList.reverse).reverse := by
    rw [spelled_dropTrailing, List.reverse_reverse]
  rw [namesOf_eq_spelled, namesOf_eq_spelled, hq, hp]
  generalize dropTrailing p.toList.reverse = l
  cases hrest : l.dropWhile (· != '/') with
  | nil => exact List.nil_prefix
  | cons c rest =>
    have hc : c = '/' := by
      have hne : l.dropWhile (· != '/') ≠ [] := by rw [hrest]; exact List.cons_ne_nil c rest
      have hhead := List.head_dropWhile_not (· != '/') hne
      simpa [hrest] using hhead
    subst hc
    have hl : l.reverse = rest.reverse ++ '/' :: (l.takeWhile (· != '/')).reverse := by
      have hsplit := List.takeWhile_append_dropWhile (p := (· != '/')) (l := l)
      rw [hrest] at hsplit
      rw [← congrArg List.reverse hsplit]
      simp
    rw [hl, spelled_append_slash, List.reverse_cons, spelled_append_slash, spelled_nil,
      List.append_nil]
    exact List.prefix_append _ _

theorem self_mem_ancestors (p : Path) : p ∈ p.ancestors := by
  rw [ancestors]
  cases p.toList.length with
  | zero => exact List.mem_singleton_self p
  | succ fuel =>
    rw [ancestorsFrom]
    split
    · exact List.mem_singleton_self p
    · exact List.mem_cons_self

/-- What holds of a path and passes from every path to its parent holds of the ancestors. -/
theorem of_mem_ancestors {P : Path → Prop} (h : q ∈ p.ancestors) (hp : P p)
    (hup : ∀ p q, parent? p = some q → P p → P q) : P q := by
  rw [ancestors] at h
  generalize p.toList.length = fuel at h
  induction fuel generalizing p with
  | zero => exact List.mem_singleton.1 h ▸ hp
  | succ fuel ih =>
    rw [ancestorsFrom] at h
    split at h
    · exact List.mem_singleton.1 h ▸ hp
    · next parent hparent =>
      rcases List.mem_cons.1 h with rfl | h
      · exact hp
      · exact ih (hup p parent hparent hp) h

/-- The names of an ancestor are the first names of the path. -/
theorem namesOf_prefix_of_mem_ancestors (h : q ∈ p.ancestors) : namesOf q <+: namesOf p :=
  of_mem_ancestors h (List.prefix_refl _) fun _ _ hparent hp =>
    (namesOf_of_parent? hparent).trans hp

theorem getLast?_dropTrailing (l : List Char) : (dropTrailing l).getLast? = l.getLast? := by
  fun_induction dropTrailing l with
  | case1 => rfl
  | case2 r hr ih => rw [ih, List.getLast?_cons_of_ne_nil hr]
  | case3 => rfl
  | case4 r ih => rw [ih, List.getLast?_cons_of_ne_nil (List.cons_ne_nil _ _)]
  | case5 => rfl

theorem isAbsolute_of_parent? (h : parent? p = some q) : q.isAbsolute = p.isAbsolute := by
  have hp : p.toList.head? = (dropTrailing p.toList.reverse).getLast? := by
    rw [getLast?_dropTrailing, List.getLast?_reverse]
  rw [isAbsolute, isAbsolute, ← List.getLast?_reverse, parent?_eq_some h, getLast?_dropTrailing, hp]
  generalize dropTrailing p.toList.reverse = l
  cases hrest : l.dropWhile (· != '/') with
  | nil =>
    -- there is no slash in the path, and what is left of it is empty
    refine (beq_eq_false_iff_ne.2 fun hlast => ?_).symm
    simpa using List.dropWhile_eq_nil_iff.1 hrest '/' (List.mem_of_getLast? hlast)
  | cons c rest =>
    have hsplit := List.takeWhile_append_dropWhile (p := (· != '/')) (l := l)
    rw [← hsplit, hrest, List.getLast?_append, List.getLast?_cons, Option.some_or]

theorem isAbsolute_of_mem_ancestors (h : q ∈ p.ancestors) : q.isAbsolute = p.isAbsolute :=
  of_mem_ancestors (P := fun q => q.isAbsolute = p.isAbsolute) h rfl fun _ _ hparent hp =>
    (isAbsolute_of_parent? hparent).trans hp

theorem join_empty (p : Path) : join "" p = p := by
  rw [join, if_pos (by simp)]

theorem isAbsolute_join (h : p.isAbsolute = false) (dir : Path) :
    (dir.join p).isAbsolute = dir.isAbsolute := by
  by_cases hempty : dir = ""
  · subst hempty
    rw [join_empty, h]
    rfl
  · obtain ⟨c, cs, hdir⟩ : ∃ c cs, dir.toList = c :: cs :=
      List.exists_cons_of_ne_nil fun hnil => hempty (String.toList_eq_nil_iff.1 hnil)
    rw [join, h, Bool.false_or, if_neg (by simpa using hempty)]
    split
    · simp [isAbsolute, hdir]
    · simp [isAbsolute, hdir]

theorem namesOf_join (h : p.isAbsolute = false) (dir : Path) :
    namesOf (dir.join p) = namesOf dir ++ namesOf p := by
  by_cases hempty : dir = ""
  · subst hempty
    rw [join_empty]
    rfl
  · rw [join, h, Bool.false_or, if_neg (by simpa using hempty)]
    split
    · next hlast =>
      obtain ⟨l, hl⟩ := List.getLast?_eq_some_iff.1 (beq_iff_eq.1 hlast)
      rw [namesOf_eq_spelled, namesOf_eq_spelled, namesOf_eq_spelled, String.toList_append, hl,
        List.append_assoc, List.singleton_append, spelled_append_slash, spelled_append_slash,
        spelled_nil, List.append_nil]
    · rw [namesOf_eq_spelled, namesOf_eq_spelled, namesOf_eq_spelled, ← spelled_append_slash]
      simp

end Path

/-! ### Where names lead -/

/-- What a list of steps amounts to: how far it leads up from where it starts, and the names that it
then leads down. -/
structure Route where
  up : Nat := 0
  down : List String := []

namespace Route

/-- One more step. -/
def step (r : Route) (name : String) : Route :=
  if name = "" ∨ name = "." then r
  else if name = ".." then
    if r.down = [] then { r with up := r.up + 1 } else { r with down := r.down.dropLast }
  else { r with down := r.down ++ [name] }

/-- What steps amount to. -/
def ofSteps (steps : List String) : Route :=
  steps.foldl step {}

/-- Where a route leads from a directory. It does not lead out of the top. -/
def follow (r : Route) (names : List String) : List String :=
  names.take (names.length - r.up) ++ r.down

variable {r : Route} {names steps : List String} {name : String}

theorem follow_step (r : Route) (names : List String) (name : String) :
    (r.step name).follow names = FileTree.step (r.follow names) name := by
  unfold step FileTree.step
  split
  · rfl
  · split
    · split
      · next hdown =>
        rw [follow, follow, hdown, List.append_nil, List.append_nil, List.dropLast_eq_take,
          List.take_take, List.length_take]
        exact congrArg (names.take ·) (by dsimp only; omega)
      · next hdown => rw [follow, follow, List.dropLast_append_of_ne_nil hdown]
    · rw [follow, follow, List.append_assoc]

/-- Steps lead where their route leads, also from the top and from directories near it. -/
theorem foldl_step_eq_follow (steps names : List String) :
    steps.foldl FileTree.step names = (ofSteps steps).follow names := by
  suffices h : ∀ r : Route,
      steps.foldl FileTree.step (r.follow names) = (steps.foldl step r).follow names by
    have hstart : follow {} names = names := by
      rw [follow, Nat.sub_zero, List.take_length, List.append_nil]
    rw [ofSteps, ← h, hstart]
  induction steps with
  | nil => exact fun r => rfl
  | cons name steps ih =>
    intro r
    rw [List.foldl_cons, List.foldl_cons, ← follow_step, ih]

/-- A route leads into a directory again if it enters all that it has left. -/
theorem prefix_follow_iff :
    names <+: r.follow names ↔ names.drop (names.length - r.up) <+: r.down := by
  have hcut : names.take (names.length - r.up) ++ names.drop (names.length - r.up) <+:
      names.take (names.length - r.up) ++ r.down ↔
        names.drop (names.length - r.up) <+: r.down := List.prefix_append_right_inj _
  rwa [List.take_append_drop] at hcut

theorem up_ofSteps (h : ".." ∉ steps) : (ofSteps steps).up = 0 := by
  suffices hall : ∀ r : Route, (steps.foldl step r).up = r.up from hall {}
  induction steps with
  | nil => exact fun r => rfl
  | cons name steps ih =>
    obtain ⟨hname, hsteps⟩ := List.ne_and_not_mem_of_not_mem_cons h
    intro r
    rw [List.foldl_cons, ih hsteps, step]
    split
    · rfl
    · rw [if_neg (Ne.symm hname)]

theorem prefix_follow_of_no_up (h : ".." ∉ steps) : names <+: (ofSteps steps).follow names := by
  rw [prefix_follow_iff, up_ofSteps h, Nat.sub_zero, List.drop_length]
  exact List.nil_prefix

end Route

namespace FileTree

variable {tree : FileTree} {p dir : Path} {name : String} {names names' steps : List String}

/-- The names that a path leads to if it can be followed. -/
def leadsTo (tree : FileTree) (p : Path) : List String :=
  (namesOf p).foldl step (tree.start p)

theorem step_stay (h : name = "" ∨ name = ".") (names : List String) : step names name = names :=
  if_pos h

theorem step_down (h : ¬ (name = "" ∨ name = ".")) (hup : name ≠ "..") (names : List String) :
    step names name = names ++ [name] := by
  rw [step, if_neg h, if_neg hup]

theorem foldl_step_filter (steps names : List String) :
    (steps.filter fun name => name != "" && name != ".").foldl step names =
      steps.foldl step names := by
  induction steps generalizing names with
  | nil => rfl
  | cons name steps ih =>
    by_cases h : name = "" ∨ name = "."
    · rw [List.filter_cons_of_neg (by rcases h with rfl | rfl <;> simp), List.foldl_cons,
        step_stay h, ih]
    · obtain ⟨hempty, hpoint⟩ := not_or.1 h
      rw [List.filter_cons_of_pos (by simp [hempty, hpoint]), List.foldl_cons, List.foldl_cons, ih]

theorem eq_step_of_enter (h : tree.enter names name = .ok names') : names' = step names name := by
  unfold enter at h
  split at h
  · cases h
  · cases h
  · split at h
    · exact (Except.ok.inj h).symm
    · next hname =>
      obtain ⟨hempty, hpoint, hup⟩ : name ≠ "" ∧ name ≠ "." ∧ name ≠ ".." := by
        simpa only [not_or] using hname
      split at h
      · cases h
      · split at h
        · rw [step_down (not_or.2 ⟨hempty, hpoint⟩) hup]
          exact (Except.ok.inj h).symm
        · cases h

theorem eq_foldl_of_foldlM (h : steps.foldlM (enter tree) names = .ok names') :
    names' = steps.foldl step names := by
  induction steps generalizing names with
  | nil => exact (Except.ok.inj h).symm
  | cons name steps ih =>
    rw [List.foldlM_cons] at h
    cases hstep : tree.enter names name with
    | error e => rw [hstep] at h; cases h
    | ok next =>
      rw [hstep] at h
      rw [List.foldl_cons, ← eq_step_of_enter hstep]
      exact ih h

theorem eq_leadsTo_of_resolve (h : tree.resolve p = .ok names) : names = tree.leadsTo p := by
  rw [resolve] at h
  split at h
  · cases h
  · split at h
    · cases h
    · split at h
      · cases h
      · rw [leadsTo, namesOf, foldl_step_filter]
        exact eq_foldl_of_foldlM h

/-- A plain name leads to a place in the directory that a path leads to. -/
theorem leadsTo_join (hnames : namesOf p = [name]) (hrel : p.isAbsolute = false) (hup : name ≠ "..")
    (dir : Path) : tree.leadsTo (dir.join p) = tree.leadsTo dir ++ [name] := by
  have hstay : ¬ (name = "" ∨ name = ".") := by
    have hmem : name ∈ namesOf p := hnames ▸ List.mem_singleton_self name
    simpa using (List.mem_filter.1 hmem).2
  rw [leadsTo, Path.namesOf_join hrel, hnames, List.foldl_append, start, Path.isAbsolute_join hrel,
    List.foldl_cons, List.foldl_nil, step_down hstay hup]
  rfl

/-- A path leads on from where its ancestors lead, along the names that it has more. -/
theorem leadsTo_of_mem_ancestors (tree : FileTree) {above : Path} (h : above ∈ dir.ancestors) :
    ∃ rest, namesOf dir = namesOf above ++ rest ∧
      tree.leadsTo dir = (Route.ofSteps rest).follow (tree.leadsTo above) := by
  obtain ⟨rest, hrest⟩ := Path.namesOf_prefix_of_mem_ancestors h
  refine ⟨rest, hrest.symm, ?_⟩
  rw [← Route.foldl_step_eq_follow, leadsTo, leadsTo, ← List.foldl_append, hrest, start, start,
    Path.isAbsolute_of_mem_ancestors h]

end FileTree

end Slipway
