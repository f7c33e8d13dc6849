import Slipway.Log.Logger
import Slipway.Proofs.Text.Trimming
import Mathlib.Data.List.MinMax
import Mathlib.Data.List.Nodup
import Mathlib.Data.Prod.Lex
import Mathlib.Data.String.Basic

/-!
# Which directives decide

A directive outranks another one about the same event if it weighs more (`outranks_iff`), and two
that weigh the same have the same target and scope (`key_eq_of_weight_eq`). So a filter, which has
one directive for each target and scope, has at most one heaviest directive about an event, wherever
it stands (`decisive?_eq_some_iff`).

The directives of the environment are added to those of the program. Being the last they replace
those of the same target and scope, and otherwise the order does not count: they decide about an
event if one of them is not outranked by the program (`decisive?_of_overrides`), and else change
nothing for it (`decisive?_of_not_overrides`). A directive of the program with a longer target
stays in force, whatever the environment says.
-/

namespace Slipway.Log

variable {d b : Directive} {e : Event} {f : Filter} {ds : List Directive}

/-! ### Weights -/

/-- How much a scope counts: the more, the greater the name of its field is. -/
def Scope.weight : Scope → WithBot String
  | field name => name
  | _ => ⊥

/-- Spans are left out: they take in no event, and they are not compared with fields. -/
theorem Scope.isNarrower_iff {s t : Scope} (hs : s ≠ .span) (ht : t ≠ .span) :
    s.isNarrower t = true ↔ t.weight < s.weight := by
  cases s with
  | span => exact absurd rfl hs
  | anywhere => simp [isNarrower, weight]
  | field a =>
    cases t with
    | span => exact absurd rfl ht
    | anywhere => simp [isNarrower, weight]
    | field b => simp [isNarrower, weight]

namespace Directive

/-- What tells a directive apart from the others of a filter. -/
def key (d : Directive) : String × Scope :=
  (d.target, d.scope)

/-- How specific a directive is: by the length of its target first, and then by its scope. -/
def weight (d : Directive) : Nat ×ₗ WithBot String :=
  toLex (d.target.length, d.scope.weight)

theorem concerns_congr (h : d.key = b.key) (e : Event) : d.concerns e = b.concerns e := by
  obtain ⟨htarget, hscope⟩ := Prod.mk.inj h
  rw [concerns, concerns, htarget, hscope]

theorem weight_congr (h : d.key = b.key) : d.weight = b.weight := by
  obtain ⟨htarget, hscope⟩ := Prod.mk.inj h
  rw [weight, weight, htarget, hscope]

theorem scope_ne_span (h : d.concerns e = true) : d.scope ≠ .span := by
  intro hspan
  rw [concerns, hspan, Scope.takesIn, Bool.and_false] at h
  cases h

theorem outranks_iff (hd : d.concerns e = true) (hb : b.concerns e = true) :
    d.outranks b = true ↔ b.weight < d.weight := by
  rw [outranks, weight, weight, Prod.Lex.toLex_lt_toLex]
  split
  · next h =>
    rw [Scope.isNarrower_iff (scope_ne_span hd) (scope_ne_span hb)]
    simp [h]
  · next h =>
    rw [decide_eq_true_iff]
    exact ⟨.inl, fun hor => hor.resolve_right fun heq => h heq.1.symm⟩

theorem prefix_of_concerns (h : d.concerns e = true) : d.target.toList <+: e.target.toList := by
  rw [concerns, Bool.and_eq_true] at h
  exact List.isPrefixOf_iff_prefix.1 h.1

/-- Two prefixes of a target of the same length are the same. -/
theorem key_eq_of_weight_eq (hd : d.concerns e = true) (hb : b.concerns e = true)
    (h : d.weight = b.weight) : d.key = b.key := by
  obtain ⟨hlength, hweight⟩ := Prod.mk.inj (toLex.injective h)
  have htarget : d.target = b.target := by
    have hlength' : d.target.toList.length = b.target.toList.length := hlength
    have hpart : d.target.toList <+: b.target.toList :=
      List.prefix_of_prefix_length_le (prefix_of_concerns hd) (prefix_of_concerns hb) hlength'.le
    exact String.toList_inj.1 (hpart.eq_of_length hlength')
  have hscope : d.scope = b.scope := by
    have hd' := scope_ne_span hd
    have hb' := scope_ne_span hb
    cases hs : d.scope <;> cases ht : b.scope <;> simp_all [Scope.weight]
  rw [key, key, htarget, hscope]

end Directive

namespace Filter

/-! ### The heaviest directive -/

/-- Whether no two directives have the same target and scope. -/
def Distinct (f : Filter) : Prop :=
  (f.map Directive.key).Nodup

/-- Whether a directive is the heaviest of a filter about an event. -/
structure Decides (f : Filter) (e : Event) (d : Directive) : Prop where
  mem : d ∈ f
  concerns : d.concerns e = true
  heaviest : ∀ b ∈ f, b.concerns e = true → b.weight ≤ d.weight

theorem decisive?_eq_argmax (f : Filter) (e : Event) :
    f.decisive? e = (f.filter (·.concerns e)).argmax Directive.weight := by
  induction f using List.reverseRecOn with
  | nil => rfl
  | append_singleton f d ih =>
    rw [decisive?] at ih ⊢
    rw [List.filter_append]
    cases hd : d.concerns e with
    | false => rw [List.filter_singleton, hd, cond_false, List.append_nil, ih]
    | true =>
      rw [List.filter_singleton, hd, cond_true, List.foldl_concat, ih, List.argmax_concat]
      cases hbest : (f.filter (·.concerns e)).argmax Directive.weight with
      | none => rfl
      | some b =>
        have hb : b.concerns e = true := (List.mem_filter.1 (List.argmax_mem hbest)).2
        simp only [Directive.outranks_iff hd hb]

theorem decides_of_decisive? (h : f.decisive? e = some d) : f.Decides e d := by
  rw [decisive?_eq_argmax] at h
  obtain ⟨hd, hconcerns⟩ := List.mem_filter.1 (List.argmax_mem h)
  refine ⟨hd, hconcerns, fun b hb hbc => ?_⟩
  exact List.le_of_mem_argmax (List.mem_filter.2 ⟨hb, hbc⟩) h

theorem decisive?_eq_none_iff : f.decisive? e = none ↔ ∀ b ∈ f, ¬ b.concerns e = true := by
  rw [decisive?_eq_argmax, List.argmax_eq_none, List.filter_eq_nil_iff]

theorem Decides.unique (hf : f.Distinct) (hd : f.Decides e d) (hb : f.Decides e b) : d = b := by
  have hweight : d.weight = b.weight :=
    le_antisymm (hb.heaviest d hd.mem hd.concerns) (hd.heaviest b hb.mem hb.concerns)
  exact List.inj_on_of_nodup_map hf hd.mem hb.mem
    (Directive.key_eq_of_weight_eq hd.concerns hb.concerns hweight)

theorem decisive?_eq_some_iff (hf : f.Distinct) : f.decisive? e = some d ↔ f.Decides e d := by
  refine ⟨decides_of_decisive?, fun hd => ?_⟩
  cases hbest : f.decisive? e with
  | none => exact absurd hd.concerns (decisive?_eq_none_iff.1 hbest d hd.mem)
  | some b => rw [(decides_of_decisive? hbest).unique hf hd]

/-! ### More directives -/

theorem mem_add : b ∈ f.add d ↔ b = d ∨ (b ∈ f ∧ b.key ≠ d.key) := by
  rw [add, List.mem_append, List.mem_singleton, List.mem_filter, or_comm]
  simp [Directive.key, Prod.ext_iff, imp_iff_not_or]

theorem Distinct.add (hf : f.Distinct) (d : Directive) : (f.add d).Distinct := by
  rw [Distinct, Filter.add, List.map_append, List.map_singleton, List.nodup_append_comm,
    List.singleton_append, List.nodup_cons]
  refine ⟨fun hm => ?_, List.Nodup.sublist (List.filter_sublist.map _) hf⟩
  obtain ⟨b, hb, hkey⟩ := List.mem_map.1 hm
  obtain ⟨htarget, hscope⟩ := Prod.mk.inj hkey
  simp [htarget, hscope] at hb

theorem Distinct.foldl_add (hf : f.Distinct) (ds : List Directive) :
    (ds.foldl Filter.add f).Distinct := by
  induction ds generalizing f with
  | nil => exact hf
  | cons d ds ih => exact ih (hf.add d)

theorem distinct_ofDirectives (ds : List Directive) : (ofDirectives ds).Distinct :=
  Distinct.foldl_add (f := []) List.nodup_nil ds

theorem distinct_orLevel (level : Limit) (ds : List Directive) : (orLevel level ds).Distinct := by
  rw [orLevel]
  split
  · exact List.nodup_singleton _
  · exact distinct_ofDirectives ds

theorem ofDirectives_concat (ds : List Directive) (d : Directive) :
    ofDirectives (ds ++ [d]) = (ofDirectives ds).add d :=
  List.foldl_concat ..

/-- Directives that are added stay, and of those that were there the ones that are not replaced. -/
theorem mem_foldl_add :
    b ∈ ds.foldl add f ↔ b ∈ ofDirectives ds ∨ (b ∈ f ∧ ∀ d ∈ ds, b.key ≠ d.key) := by
  induction ds using List.reverseRecOn with
  | nil => simp [ofDirectives]
  | append_singleton ds d ih =>
    rw [List.foldl_concat, ofDirectives_concat, mem_add, mem_add, ih, List.forall_mem_append,
      List.forall_mem_singleton]
    tauto

theorem mem_of_mem_ofDirectives (h : b ∈ ofDirectives ds) : b ∈ ds := by
  induction ds using List.reverseRecOn with
  | nil => exact h
  | append_singleton ds d ih =>
    rw [ofDirectives_concat, mem_add] at h
    rcases h with rfl | ⟨h, -⟩
    · exact List.mem_concat_self
    · exact List.mem_append_left _ (ih h)

theorem exists_mem_ofDirectives (h : d ∈ ds) : ∃ b ∈ ofDirectives ds, b.key = d.key := by
  induction ds using List.reverseRecOn with
  | nil => exact absurd h List.not_mem_nil
  | append_singleton ds c ih =>
    rw [ofDirectives_concat]
    by_cases hkey : d.key = c.key
    · exact ⟨c, mem_add.2 (.inl rfl), hkey.symm⟩
    · rcases List.mem_append.1 h with h | h
      · obtain ⟨b, hb, hbd⟩ := ih h
        exact ⟨b, mem_add.2 (.inr ⟨hb, hbd ▸ hkey⟩), hbd⟩
      · exact absurd (congrArg Directive.key (List.mem_singleton.1 h)) hkey

/-! ### Whose directives decide -/

/-- Whether one of some directives is about an event and not outranked by a filter. -/
def Overrides (ds : List Directive) (f : Filter) (e : Event) : Prop :=
  ∃ d ∈ ds, d.concerns e = true ∧ ∀ b ∈ f, b.concerns e = true → ¬ b.outranks d = true

instance : Decidable (Overrides ds f e) :=
  inferInstanceAs (Decidable (∃ d ∈ ds, d.concerns e = true ∧
    ∀ b ∈ f, b.concerns e = true → ¬ b.outranks d = true))

/-- Without fields the length of the targets counts alone. -/
theorem overrides_iff (hds : ∀ d ∈ ds, d.scope = .anywhere) (hf : ∀ b ∈ f, b.scope = .anywhere) :
    Overrides ds f e ↔ ∃ d ∈ ds, d.concerns e = true ∧
      ∀ b ∈ f, b.concerns e = true → b.target.length ≤ d.target.length := by
  refine exists_congr fun d => and_congr_right fun hd => and_congr_right fun _ =>
    forall₂_congr fun b hb => forall_congr' fun _ => ?_
  rw [Directive.outranks, hds d hd, hf b hb]
  split
  · next h => simp [Scope.isNarrower, h]
  · simp

section
variable (hf : f.Distinct)
include hf

theorem decisive?_of_overrides (h : Overrides ds f e) :
    (ds.foldl add f).decisive? e = (ofDirectives ds).decisive? e := by
  obtain ⟨d, hd, hconcerns, hrank⟩ := h
  -- the directive itself may have been replaced by a later one of the same key
  obtain ⟨c, hc, hkey⟩ := exists_mem_ofDirectives hd
  have hcc : c.concerns e = true := by rw [Directive.concerns_congr hkey, hconcerns]
  cases hbest : (ofDirectives ds).decisive? e with
  | none => exact absurd hcc (decisive?_eq_none_iff.1 hbest c hc)
  | some best =>
    have hbest : (ofDirectives ds).Decides e best := decides_of_decisive? hbest
    rw [decisive?_eq_some_iff (hf.foldl_add ds)]
    refine ⟨mem_foldl_add.2 (.inl hbest.mem), hbest.concerns, fun b hb hbc => ?_⟩
    rcases mem_foldl_add.1 hb with hb | ⟨hb, -⟩
    · exact hbest.heaviest b hb hbc
    · have hle : b.weight ≤ c.weight := by
        rw [Directive.weight_congr hkey, ← not_lt, ← Directive.outranks_iff hbc hconcerns]
        exact hrank b hb hbc
      exact hle.trans (hbest.heaviest c hc hcc)

theorem decisive?_of_not_overrides (h : ¬ Overrides ds f e) :
    (ds.foldl add f).decisive? e = f.decisive? e := by
  have houtranked : ∀ d ∈ ds, d.concerns e = true →
      ∃ b ∈ f, b.concerns e = true ∧ d.weight < b.weight := by
    intro d hd hconcerns
    by_contra hnone
    refine h ⟨d, hd, hconcerns, fun b hb hbc hrank => hnone ⟨b, hb, hbc, ?_⟩⟩
    exact (Directive.outranks_iff hbc hconcerns).1 hrank
  cases hbest : f.decisive? e with
  | none =>
    rw [decisive?_eq_none_iff] at hbest ⊢
    intro b hb hbc
    rcases mem_foldl_add.1 hb with hb | ⟨hb, -⟩
    · obtain ⟨c, hc, hcc, -⟩ := houtranked b (mem_of_mem_ofDirectives hb) hbc
      exact hbest c hc hcc
    · exact hbest b hb hbc
  | some best =>
    have hbest : f.Decides e best := decides_of_decisive? hbest
    have hlt : ∀ d ∈ ds, d.concerns e = true → d.weight < best.weight := by
      intro d hd hconcerns
      obtain ⟨b, hb, hbc, hlt⟩ := houtranked d hd hconcerns
      exact hlt.trans_le (hbest.heaviest b hb hbc)
    -- a directive that replaced it would weigh as much
    have hkept : ∀ d ∈ ds, best.key ≠ d.key := by
      intro d hd hkey
      have hdc : d.concerns e = true := by rw [← Directive.concerns_congr hkey, hbest.concerns]
      exact absurd (Directive.weight_congr hkey) (hlt d hd hdc).ne'
    rw [decisive?_eq_some_iff (hf.foldl_add ds)]
    refine ⟨mem_foldl_add.2 (.inr ⟨hbest.mem, hkept⟩), hbest.concerns, fun b hb hbc => ?_⟩
    rcases mem_foldl_add.1 hb with hb | ⟨hb, -⟩
    · exact (hlt b (mem_of_mem_ofDirectives hb) hbc).le
    · exact hbest.heaviest b hb hbc

end

/-! ### The environment -/

variable {level : Limit} {program environment : String} {own : Filter}

theorem environmentDirectives_of_trimmed
    (h : ∀ entry ∈ entriesOf environment, Text.trim entry = entry) :
    environmentDirectives environment =
      (entriesOf environment).filterMap Directive.ofText? := by
  rw [environmentDirectives, entriesOf, List.filterMap_filter]
  refine List.filterMap_congr fun entry hentry => ?_
  by_cases hempty : entry.isEmpty = true
  · rw [String.isEmpty_iff.1 hempty]
    rfl
  · have hkept : entry ∈ entriesOf environment := List.mem_filter.2 ⟨hentry, by simpa using hempty⟩
    rw [h entry hkept]
    simp [hempty]

/-- The directives of the environment are added to those that the program has alone. -/
theorem build_of_build (h : build level (some program) none = some own) (environment : String) :
    own.Distinct ∧ build level (some program) (some environment) =
      some ((environmentDirectives environment).foldl add own) := by
  rw [build, Option.map_eq_some_iff] at h
  obtain ⟨ds, hds, rfl⟩ := h
  refine ⟨distinct_orLevel level ds, ?_⟩
  rw [build, hds]
  rfl

theorem build_environment (h : ∀ entry ∈ entriesOf environment, Text.trim entry = entry)
    (hne : environmentDirectives environment ≠ []) :
    build level none (some environment) =
      some (ofDirectives (environmentDirectives environment)) := by
  rw [build, Option.getD_some, ← environmentDirectives_of_trimmed h, orLevel, if_neg]
  rwa [List.isEmpty_iff]

end Filter

theorem Setup.buildFilter_eq_ok_iff {s : Setup} {environment : Option String} :
    s.buildFilter environment = .ok f ↔ Filter.build s.level s.filter environment = some f := by
  rw [buildFilter]
  cases Filter.build s.level s.filter environment <;> simp

/-- A program with a filter of its own is given the directives of the environment besides. Where
they override the program, they decide as if they stood alone; about all other events the program
decides as if there were no environment. As long as no directive asks for a field, they override the
program about an event if the longest of their targets is no shorter than the longest of the
program's. -/
theorem Setup.limitFor_buildFilter {s : Setup} {program : String} {own : Filter}
    (hprogram : s.filter = some program) (hown : s.buildFilter none = .ok own)
    (environment : String) :
    let added := Filter.environmentDirectives environment
    ∃ both, s.buildFilter (some environment) = .ok both ∧
      (∀ e, Filter.Overrides added own e →
        both.limitFor e = (Filter.ofDirectives added).limitFor e) ∧
      (∀ e, ¬ Filter.Overrides added own e → both.limitFor e = own.limitFor e) ∧
      ((∀ d ∈ added, d.scope = .anywhere) → (∀ b ∈ own, b.scope = .anywhere) →
        ∀ e, Filter.Overrides added own e ↔ ∃ d ∈ added, d.concerns e = true ∧
          ∀ b ∈ own, b.concerns e = true → b.target.length ≤ d.target.length) ∧
      ((∀ entry ∈ entriesOf environment, Text.trim entry = entry) → added ≠ [] →
        ({ s with filter := none } : Setup).buildFilter (some environment) =
          .ok (Filter.ofDirectives added)) := by
  intro added
  rw [buildFilter_eq_ok_iff, hprogram] at hown
  obtain ⟨hdistinct, hboth⟩ := Filter.build_of_build hown environment
  refine ⟨added.foldl Filter.add own, ?_, fun e he => ?_, fun e he => ?_,
    fun hds hb e => Filter.overrides_iff hds hb, fun htrim hne => ?_⟩
  · rw [buildFilter_eq_ok_iff, hprogram]
    exact hboth
  · rw [Filter.limitFor, Filter.limitFor, Filter.decisive?_of_overrides hdistinct he]
  · rw [Filter.limitFor, Filter.limitFor, Filter.decisive?_of_not_overrides hdistinct he]
  · rw [buildFilter_eq_ok_iff]
    exact Filter.build_environment htrim hne

/-- The environment decides about what it names, and about what the program does not name. -/
theorem Setup.limitFor_buildFilter_both :
    let s : Setup := { name := "xtask", filter := some "app=debug" }
    ∃ both, s.buildFilter (some "error,app::publish=warn") = .ok both ∧
      both.limitFor ⟨.debug, "app", "", []⟩ = .upTo .debug ∧
      both.limitFor ⟨.debug, "app::publish", "", []⟩ = .upTo .warn ∧
      both.limitFor ⟨.debug, "other", "", []⟩ = .upTo .error := by
  intro s
  let own : Filter := [⟨"app", .anywhere, .upTo .debug⟩]
  have hown : s.buildFilter none = .ok own := buildFilter_eq_ok_iff.2 (by decide +kernel)
  have hadded : Filter.environmentDirectives "error,app::publish=warn" =
      [⟨"", .anywhere, .upTo .error⟩, ⟨"app::publish", .anywhere, .upTo .warn⟩] := by decide +kernel
  obtain ⟨both, hboth, hover, hkeep, -⟩ :=
    limitFor_buildFilter rfl hown "error,app::publish=warn"
  rw [hadded] at hover hkeep
  refine ⟨both, hboth, ?_, ?_, ?_⟩
  · rw [hkeep _ (by decide +kernel)]
    decide +kernel
  · rw [hover _ (by decide +kernel)]
    decide +kernel
  · rw [hover _ (by decide +kernel)]
    decide +kernel

/-- The environment does not win over a directive with a longer target. -/
theorem Setup.not_limitFor_environment :
    ¬ ∀ (s : Setup) (program environment : String) (both alone : Filter) (e : Event),
        s.filter = some program → s.buildFilter (some environment) = .ok both →
        ({ s with filter := none } : Setup).buildFilter (some environment) = .ok alone →
        (∀ entry ∈ entriesOf environment, ∃ d, Directive.ofText? entry = some d ∧
          d.scope = .anywhere) →
        (∃ d ∈ Filter.environmentDirectives environment, d.concerns e = true) →
          both.limitFor e = alone.limitFor e := by
  intro hall
  let s : Setup := { name := "xtask", filter := some "mple_release=debug" }
  let own : Directive := ⟨"mple_release", .anywhere, .upTo .debug⟩
  let added : Directive := ⟨"", .anywhere, .upTo .error⟩
  let e : Event := ⟨.debug, "mple_release", "hello", []⟩
  have hboth : s.buildFilter (some "error") = .ok [own, added] :=
    buildFilter_eq_ok_iff.2 (by decide +kernel)
  have halone : ({ s with filter := none } : Setup).buildFilter (some "error") = .ok [added] :=
    buildFilter_eq_ok_iff.2 (by decide +kernel)
  have hadded : Filter.environmentDirectives "error" = [added] := by decide +kernel
  have hentries : entriesOf "error" = ["error"] := by decide +kernel
  have hread : Directive.ofText? "error" = some added := by decide +kernel
  have hlimit := hall s _ "error" _ _ e rfl hboth halone ?_ ?_
  · exact absurd hlimit (by decide)
  · rw [hentries]
    exact List.forall_mem_singleton.2 ⟨added, hread, rfl⟩
  · rw [hadded]
    exact ⟨added, List.mem_singleton_self _, by decide⟩

end Slipway.Log
