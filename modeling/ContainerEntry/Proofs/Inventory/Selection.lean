import Mathlib
import ContainerEntry.Inventory

/-!
# Which containers are selected

A selection goes through the containers, and for each of them through the patterns, up to the first
that matches or cannot be read.  A pattern that holds a NUL cannot be read, and it is met only where
a container gets past all patterns in front of it.

* **Patterns that can be read** (`filter_of_readable`): the containers are kept whose names one of
  the patterns matches, in their order.  Nothing depends on the order of the patterns.
* **Patterns among which one cannot be read** (`filter_of_unreadable`): the selection fails, and
  names the first of those, if and only if some container is matched by none of the patterns in
  front of it.  Otherwise every container is kept.
* **A second time changes nothing** (`filter_of_filter`), with whatever patterns.

So it does depend on the containers and on the order of the patterns whether a pattern is reported
that cannot be read.  `selectsSoundly_iff` says when it does not: when there is no such pattern, or
when some container is matched by no pattern at all.
-/

namespace ContainerEntry.Inventory

open Bytes

variable {name pattern : Bytes} {patterns front rest : List Bytes} {c : Container}
  {containers kept : List Container}

/-! ### One name -/

/-- A name is matched against a pattern that can be read. -/
lemma isMatch?_of_readable (hname : nul ∉ name) (hpattern : nul ∉ pattern) :
    Glob.isMatch? pattern name = some (Glob.isMatch pattern name) := by
  simp [Glob.isMatch?, hname, hpattern]

/-- Nothing is matched against a pattern that cannot be read. -/
lemma isMatch?_of_unreadable (hpattern : nul ∈ pattern) : Glob.isMatch? pattern name = none := by
  simp [Glob.isMatch?, hpattern]

/-- The patterns that come first and can be read decide alone, if one of them matches, and else do
not count. -/
lemma anyMatch_append (hname : nul ∉ name) (hfront : ∀ p ∈ front, nul ∉ p) (rest : List Bytes) :
    anyMatch name (front ++ rest) =
      if front.any (Glob.isMatch · name) then .ok true else anyMatch name rest := by
  induction front with
  | nil => rfl
  | cons p front ih =>
    rw [List.forall_mem_cons] at hfront
    obtain ⟨hp, hfront⟩ := hfront
    rw [List.cons_append, anyMatch, isMatch?_of_readable hname hp, List.any_cons]
    cases hmatch : Glob.isMatch p name with
    | true => rfl
    | false => exact ih hfront

/-- A name is matched by patterns that can be read if and only if one of them matches it. -/
lemma anyMatch_of_readable (hname : nul ∉ name) (hpatterns : ∀ p ∈ patterns, nul ∉ p) :
    anyMatch name patterns = .ok (patterns.any (Glob.isMatch · name)) := by
  have happend := anyMatch_append hname hpatterns []
  rw [List.append_nil] at happend
  rw [happend]
  cases patterns.any (Glob.isMatch · name) <;> rfl

/-- A name that gets past the patterns that can be read meets the one that cannot. -/
lemma anyMatch_of_unreadable (hname : nul ∉ name) (hfront : ∀ p ∈ front, nul ∉ p)
    (hpattern : nul ∈ pattern) (rest : List Bytes) :
    anyMatch name (front ++ pattern :: rest) =
      if front.any (Glob.isMatch · name) then .ok true else .error (.invalidPattern pattern) := by
  rw [anyMatch_append hname hfront, anyMatch, isMatch?_of_unreadable hpattern]

/-! ### All containers -/

/-- Some container is matched by none of the patterns. -/
def SomePasses (containers : List Container) (patterns : List Bytes) : Prop :=
  ∃ c ∈ containers, ∀ p ∈ patterns, Glob.isMatch p c.name = false

/-- **With patterns that can be read, the containers are kept whose names one of them matches**, in
their order. -/
theorem filter_of_readable (hnames : ∀ c ∈ containers, nul ∉ c.name) (hne : patterns ≠ [])
    (hpatterns : ∀ p ∈ patterns, nul ∉ p) :
    filter containers patterns =
      .ok (containers.filter fun c => patterns.any (Glob.isMatch · c.name)) := by
  rw [filter, if_neg (by simpa using hne)]
  induction containers with
  | nil => rfl
  | cons c rest ih =>
    rw [List.forall_mem_cons] at hnames
    obtain ⟨hname, hrest⟩ := hnames
    rw [select, anyMatch_of_readable hname hpatterns, ih hrest]
    cases hmatch : patterns.any (Glob.isMatch · c.name) with
    | true =>
      rw [List.filter_cons, if_pos hmatch]
      rfl
    | false =>
      rw [List.filter_cons, if_neg (by simp [hmatch])]
      rfl

/-- **With a pattern that cannot be read, the selection fails if and only if some container gets as
far as to the first such pattern**, which it names; otherwise all containers are kept. -/
theorem filter_of_unreadable (hnames : ∀ c ∈ containers, nul ∉ c.name)
    (hfront : ∀ p ∈ front, nul ∉ p) (hpattern : nul ∈ pattern) (rest : List Bytes) :
    (SomePasses containers front →
      filter containers (front ++ pattern :: rest) = .error (.invalidPattern pattern)) ∧
    (¬ SomePasses containers front →
      filter containers (front ++ pattern :: rest) = .ok containers) := by
  rw [filter, if_neg (by simp)]
  induction containers with
  | nil => exact ⟨fun ⟨c, hc, _⟩ => absurd hc List.not_mem_nil, fun _ => rfl⟩
  | cons c others ih =>
    rw [List.forall_mem_cons] at hnames
    obtain ⟨hname, hothers⟩ := hnames
    rw [select, anyMatch_of_unreadable hname hfront hpattern]
    cases hmatch : front.any (Glob.isMatch · c.name) with
    | false =>
      -- this container gets past them, whatever the others do
      refine ⟨fun _ => rfl, fun hnone => absurd ⟨c, List.mem_cons_self, fun p hp => ?_⟩ hnone⟩
      simpa using List.any_eq_false.1 hmatch p hp
    | true =>
      have hsome : SomePasses (c :: others) front ↔ SomePasses others front := by
        constructor
        · rintro ⟨d, hd, hpasses⟩
          rcases List.mem_cons.1 hd with rfl | hd
          · obtain ⟨p, hp, hmatches⟩ := List.any_eq_true.1 hmatch
            rw [hpasses p hp] at hmatches
            cases hmatches
          · exact ⟨d, hd, hpasses⟩
        · rintro ⟨d, hd, hpasses⟩
          exact ⟨d, List.mem_cons_of_mem c hd, hpasses⟩
      rw [hsome]
      refine ⟨fun hpasses => ?_, fun hnone => ?_⟩
      · simp only [if_true, (ih hothers).1 hpasses]
        rfl
      · simp only [if_true, (ih hothers).2 hnone]
        rfl

/-- Among patterns of which one cannot be read there is a first. -/
lemma exists_first_unreadable (h : ∃ p ∈ patterns, nul ∈ p) :
    ∃ front pattern rest, patterns = front ++ pattern :: rest ∧ (∀ p ∈ front, nul ∉ p) ∧
      nul ∈ pattern := by
  obtain ⟨p, hp, hnul⟩ := h
  have hsome : (patterns.find? (·.contains nul)).isSome := by
    rw [List.find?_isSome]
    exact ⟨p, hp, by simpa using hnul⟩
  obtain ⟨pattern, hfind⟩ := Option.isSome_iff_exists.1 hsome
  obtain ⟨hpattern, front, rest, rfl, hfront⟩ := List.find?_eq_some_iff_append.1 hfind
  exact ⟨front, pattern, rest, rfl, fun q hq => by simpa using hfront q hq, by simpa using hpattern⟩

/-- Containers that are all kept, or of which those are kept that match, are kept again. -/
theorem filter_of_filter (hnames : ∀ c ∈ containers, nul ∉ c.name) (hne : patterns ≠ [])
    (h : filter containers patterns = .ok kept) : filter kept patterns = .ok kept := by
  by_cases hall : ∀ p ∈ patterns, nul ∉ p
  · rw [filter_of_readable hnames hne hall] at h
    cases h
    rw [filter_of_readable (fun c hc => hnames c (List.mem_of_mem_filter hc)) hne hall,
      List.filter_filter]
    simp only [Bool.and_self]
  · push Not at hall
    obtain ⟨front, pattern, rest, rfl, hfront, hpattern⟩ := exists_first_unreadable hall
    obtain ⟨hfails, hkeeps⟩ := filter_of_unreadable hnames hfront hpattern rest
    by_cases hpasses : SomePasses containers front
    · rw [hfails hpasses] at h
      cases h
    · rw [hkeeps hpasses] at h
      cases h
      exact hkeeps hpasses

/-! ### Independence of the order -/

/-- A selection that reports every pattern that cannot be read, and otherwise keeps what is matched,
whatever the order of the patterns and however often. -/
structure SelectsSoundly (containers : List Container) (patterns : List Bytes) : Prop where
  /-- If a pattern cannot be read, such a pattern is reported. -/
  reports : (∃ p ∈ patterns, nul ∈ p) →
    ∃ p ∈ patterns, nul ∈ p ∧ filter containers patterns = .error (.invalidPattern p)
  /-- Otherwise the containers are kept that a pattern matches, in their order. -/
  keeps : (∀ p ∈ patterns, nul ∉ p) →
    filter containers patterns =
      .ok (containers.filter fun c => patterns.any (Glob.isMatch · c.name))
  /-- Other lists of the same patterns keep the same containers, or fail as well. -/
  orderless : ∀ others : List Bytes, (∀ p, p ∈ others ↔ p ∈ patterns) →
    (filter containers others).toOption = (filter containers patterns).toOption
  /-- What is kept is kept when it is selected again. -/
  idempotent : ∀ kept, filter containers patterns = .ok kept → filter kept patterns = .ok kept

/-- The patterns that can be read. -/
def readable (patterns : List Bytes) : List Bytes := patterns.filter fun p => !p.contains nul

/-- What can be read is a pattern without a NUL. -/
lemma mem_readable : pattern ∈ readable patterns ↔ pattern ∈ patterns ∧ nul ∉ pattern := by
  simp [readable]

/-- A container that no pattern matches which can be read makes the selection fail. -/
lemma exists_reported (hnames : ∀ c ∈ containers, nul ∉ c.name) (h : ∃ p ∈ patterns, nul ∈ p)
    (hpasses : SomePasses containers (readable patterns)) :
    ∃ p ∈ patterns, nul ∈ p ∧ filter containers patterns = .error (.invalidPattern p) := by
  obtain ⟨front, pattern, rest, rfl, hfront, hpattern⟩ := exists_first_unreadable h
  refine ⟨pattern, by simp, hpattern, (filter_of_unreadable hnames hfront hpattern rest).1 ?_⟩
  obtain ⟨c, hc, hnone⟩ := hpasses
  exact ⟨c, hc, fun p hp => hnone p (mem_readable.2 ⟨by simp [hp], hfront p hp⟩)⟩

/-- With the patterns in front that can be read, all containers are kept that each match one. -/
lemma filter_readable_first (hnames : ∀ c ∈ containers, nul ∉ c.name) (h : ∃ p ∈ patterns, nul ∈ p)
    (hpasses : ¬ SomePasses containers (readable patterns)) :
    filter containers (readable patterns ++ patterns.filter (·.contains nul)) = .ok containers := by
  obtain ⟨p, hp, hnul⟩ := h
  have hmem : p ∈ patterns.filter (·.contains nul) := by simp [hp, hnul]
  cases hlast : patterns.filter (·.contains nul) with
  | nil =>
    rw [hlast] at hmem
    cases hmem
  | cons q rest =>
    have hq : q ∈ patterns.filter (·.contains nul) := hlast ▸ List.mem_cons_self
    refine (filter_of_unreadable hnames (fun r hr => (mem_readable.1 hr).2) ?_ rest).2 hpasses
    simpa using (List.mem_filter.1 hq).2

/-- A selection by patterns that can all be read is sound. -/
lemma selectsSoundly_of_readable (hnames : ∀ c ∈ containers, nul ∉ c.name) (hne : patterns ≠ [])
    (hall : ∀ p ∈ patterns, nul ∉ p) : SelectsSoundly containers patterns := by
  have hkeeps := filter_of_readable hnames hne hall
  refine ⟨fun ⟨p, hp, hnul⟩ => absurd hnul (hall p hp), fun _ => hkeeps, ?_,
    fun kept => filter_of_filter hnames hne⟩
  intro others hothers
  have hne' : others ≠ [] := by
    obtain ⟨p, hp⟩ := List.exists_mem_of_ne_nil patterns hne
    exact List.ne_nil_of_mem ((hothers p).2 hp)
  have hall' : ∀ p ∈ others, nul ∉ p := fun p hp => hall p ((hothers p).1 hp)
  have hany : ∀ name : Bytes, others.any (Glob.isMatch · name) =
      patterns.any (Glob.isMatch · name) := by
    intro name
    rw [Bool.eq_iff_iff, List.any_eq_true, List.any_eq_true]
    simp only [hothers]
  rw [hkeeps, filter_of_readable hnames hne' hall']
  simp only [hany]

/-- A selection is sound if some container is matched by no pattern that can be read, since every
order of the patterns then fails. -/
lemma selectsSoundly_of_somePasses (hnames : ∀ c ∈ containers, nul ∉ c.name) (hne : patterns ≠ [])
    (h : ∃ p ∈ patterns, nul ∈ p) (hpasses : SomePasses containers (readable patterns)) :
    SelectsSoundly containers patterns := by
  refine ⟨fun _ => exists_reported hnames h hpasses, filter_of_readable hnames hne, ?_,
    fun kept => filter_of_filter hnames hne⟩
  intro others hothers
  have hpasses' : SomePasses containers (readable others) := by
    obtain ⟨c, hc, hnone⟩ := hpasses
    refine ⟨c, hc, fun p hp => hnone p ?_⟩
    rw [mem_readable, hothers] at hp
    exact mem_readable.2 hp
  have h' : ∃ p ∈ others, nul ∈ p := by
    obtain ⟨p, hp, hnul⟩ := h
    exact ⟨p, (hothers p).2 hp, hnul⟩
  obtain ⟨p, -, -, hfails⟩ := exists_reported hnames h hpasses
  obtain ⟨q, -, -, hfails'⟩ := exists_reported hnames h' hpasses'
  rw [hfails, hfails']
  rfl

/-- If each container is matched by a pattern that can be read, a selection is not sound: it keeps
all containers when those patterns are put in front. -/
lemma SelectsSoundly.somePasses (hsound : SelectsSoundly containers patterns)
    (hnames : ∀ c ∈ containers, nul ∉ c.name) (h : ∃ p ∈ patterns, nul ∈ p) :
    SomePasses containers (readable patterns) := by
  by_contra hnone
  obtain ⟨p, -, -, hfails⟩ := hsound.reports h
  have hsame := hsound.orderless (readable patterns ++ patterns.filter (·.contains nul))
    (fun q => by by_cases hq : nul ∈ q <;> simp [readable, hq])
  rw [filter_readable_first hnames h hnone, hfails] at hsame
  cases hsame

/-- **A selection is sound if and only if all patterns can be read, or some container is matched by
none of those that can.**  The containers' names are texts without NULs, and there is a pattern.
Whatever the patterns are, what is kept is kept when it is selected again; and if all can be read,
the containers are kept that a pattern matches.  But a pattern that cannot be read is reported in
every order of the patterns only if some container makes its way past all the others. -/
theorem selectsSoundly_iff (hnames : ∀ c ∈ containers, nul ∉ c.name) (hne : patterns ≠ []) :
    (SelectsSoundly containers patterns ↔
      (∀ p ∈ patterns, nul ∉ p) ∨
        ∃ c ∈ containers, ∀ p ∈ patterns, nul ∉ p → Glob.isMatch p c.name = false) ∧
    ((∀ p ∈ patterns, nul ∉ p) → filter containers patterns =
      .ok (containers.filter fun c => patterns.any (Glob.isMatch · c.name))) ∧
    ∀ kept, filter containers patterns = .ok kept → filter kept patterns = .ok kept := by
  have hpasses : SomePasses containers (readable patterns) ↔
      ∃ c ∈ containers, ∀ p ∈ patterns, nul ∉ p → Glob.isMatch p c.name = false := by
    simp only [SomePasses, mem_readable, and_imp]
  refine ⟨?_, filter_of_readable hnames hne, fun kept => filter_of_filter hnames hne⟩
  rw [← hpasses]
  by_cases hall : ∀ p ∈ patterns, nul ∉ p
  · exact iff_of_true (selectsSoundly_of_readable hnames hne hall) (.inl hall)
  · rw [or_iff_right hall]
    push Not at hall
    exact ⟨fun hsound => hsound.somePasses hnames hall,
      selectsSoundly_of_somePasses hnames hne hall⟩

/-- A container of which only the name counts. -/
def namedContainer (name : Bytes) : Container := ⟨name, "/", ⟨false⟩⟩

/-- A pattern that cannot be read is reported in every order of the patterns, because the other
pattern does not match every container. -/
theorem selectsSoundly_unmatchedContainer :
    (∀ c ∈ [namedContainer "dev", namedContainer "web"], nul ∉ c.name) ∧
      SelectsSoundly [namedContainer "dev", namedContainer "web"] ["d*", [0x61, nul, 0x62]] ∧
      filter [namedContainer "dev", namedContainer "web"] ["d*", [0x61, nul, 0x62]] =
        .error (.invalidPattern [0x61, nul, 0x62]) := by
  have hnames : ∀ c ∈ [namedContainer "dev", namedContainer "web"], nul ∉ c.name := by decide
  obtain ⟨hsound, -, -⟩ := selectsSoundly_iff hnames
    (List.cons_ne_nil (ofString "d*") [[0x61, nul, 0x62]])
  exact ⟨hnames, hsound.2 (.inr ⟨namedContainer "web", by decide, by decide⟩), rfl⟩

/-- A pattern that cannot be read is passed over behind one that matches every container, and
reported in front of it; and where there is no container it is not reported at all. -/
theorem unreadable_pattern_passed_over :
    filter [namedContainer "dev"] ["*", [0x61, nul, 0x62]] = .ok [namedContainer "dev"] ∧
      filter [namedContainer "dev"] [[0x61, nul, 0x62], "*"] =
        .error (.invalidPattern [0x61, nul, 0x62]) ∧
      filter [] [[0x61, nul, 0x62]] = .ok [] ∧
      ¬ SelectsSoundly [namedContainer "dev"] ["*", [0x61, nul, 0x62]] := by
  have hpassed : filter [namedContainer "dev"] ["*", [0x61, nul, 0x62]] =
      .ok [namedContainer "dev"] := rfl
  refine ⟨hpassed, rfl, rfl, fun hsound => ?_⟩
  obtain ⟨p, -, -, hfails⟩ := hsound.reports ⟨[0x61, nul, 0x62], by decide, by decide⟩
  rw [hpassed] at hfails
  cases hfails

end ContainerEntry.Inventory
