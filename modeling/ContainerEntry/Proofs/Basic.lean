import Mathlib
import ContainerEntry.Bytes

/-!
# Words that are cut, and results that are passed on

Facts that the theory of several modules rests on.  A word is cut at its first separator, so cutting
gives back what was put together as long as the text in front is free of separators (`cut_append`);
and whatever a cut gives has that form (`eq_of_cut`).  The pieces between all separators are those
of the texts in front of a separator and behind it (`fields_append`), and no piece has one.  Cutting
a text into its pieces and putting pieces together undo each other (`joinWith_fields`,
`fields_joinWith`).  Of named values, those that are left by a filter of their names keep their
names (`lookup_filter`), and where no name is there twice, a name has a value if and only if it is
there with it (`lookup_eq_some_iff`).
-/

namespace ContainerEntry

/-- A result that was mapped comes from a result. -/
lemma exists_of_map_eq_ok {ε α β : Type} {x : Except ε α} {f : α → β} {b : β}
    (h : x.map f = .ok b) : ∃ a, x = .ok a ∧ f a = b := by
  cases x with
  | error e => cases h
  | ok a => exact ⟨a, rfl, Except.ok.inj h⟩

namespace Bytes

variable {sep : UInt8} {s before after : Bytes}

/-- Texts with a separator between them are cut there, if the first has none. -/
lemma cut_append (h : sep ∉ before) (after : Bytes) :
    cut sep (before ++ sep :: after) = some (before, after) := by
  induction before with
  | nil => simp [cut]
  | cons b before ih =>
    have hb : b ≠ sep := fun heq => h (heq ▸ List.mem_cons_self)
    have hbefore : sep ∉ before := fun hmem => h (List.mem_cons_of_mem b hmem)
    rw [List.cons_append, cut, if_neg hb, ih hbefore]
    rfl

/-- A text without separators is not cut. -/
lemma cut_of_not_mem (h : sep ∉ s) : cut sep s = none := by
  induction s with
  | nil => rfl
  | cons b s ih =>
    have hb : b ≠ sep := fun heq => h (heq ▸ List.mem_cons_self)
    have hs : sep ∉ s := fun hmem => h (List.mem_cons_of_mem b hmem)
    rw [cut, if_neg hb, ih hs]
    rfl

/-- What is cut was put together, with no separator in the first text. -/
lemma eq_of_cut (h : cut sep s = some (before, after)) :
    s = before ++ sep :: after ∧ sep ∉ before := by
  induction s generalizing before with
  | nil => cases h
  | cons b s ih =>
    rw [cut] at h
    by_cases hb : b = sep
    · rw [if_pos hb] at h
      cases h
      exact ⟨by rw [hb]; rfl, List.not_mem_nil⟩
    · rw [if_neg hb] at h
      cases hcut : cut sep s with
      | none =>
        rw [hcut] at h
        cases h
      | some pieces =>
        rw [hcut] at h
        cases h
        obtain ⟨hs, hsep⟩ := ih hcut
        refine ⟨by rw [hs]; rfl, fun hmem => ?_⟩
        rcases List.mem_cons.1 hmem with heq | hmem
        · exact hb heq.symm
        · exact hsep hmem

/-- There is always a piece. -/
lemma fields_ne_nil (sep : UInt8) (s : Bytes) : fields sep s ≠ [] := by
  cases s with
  | nil => exact List.cons_ne_nil _ _
  | cons b s =>
    rw [fields]
    split
    · exact List.cons_ne_nil _ _
    · split_ifs <;> exact List.cons_ne_nil _ _

/-- A text that starts with a separator has an empty piece in front. -/
lemma fields_cons_sep (sep : UInt8) (s : Bytes) : fields sep (sep :: s) = [] :: fields sep s := by
  rw [fields]
  split
  next hnil => exact absurd hnil (fields_ne_nil sep s)
  next heq => rw [if_pos rfl, heq]

/-- A byte that is no separator belongs to the first piece. -/
lemma fields_cons_of_ne {b : UInt8} {f : Bytes} {fs : List Bytes} (hb : b ≠ sep)
    (h : fields sep s = f :: fs) : fields sep (b :: s) = (b :: f) :: fs := by
  rw [fields, h]
  exact if_neg hb

/-- Texts with a separator between them have the pieces of both. -/
lemma fields_append (sep : UInt8) (a b : Bytes) :
    fields sep (a ++ sep :: b) = fields sep a ++ fields sep b := by
  induction a with
  | nil => exact fields_cons_sep sep b
  | cons x a ih =>
    by_cases hx : x = sep
    · rw [hx, List.cons_append, fields_cons_sep, fields_cons_sep, ih, List.cons_append]
    · obtain ⟨f, fs, ha⟩ := List.exists_cons_of_ne_nil (fields_ne_nil sep a)
      have hall : fields sep (a ++ sep :: b) = f :: (fs ++ fields sep b) := by
        rw [ih, ha, List.cons_append]
      rw [List.cons_append, fields_cons_of_ne hx hall, fields_cons_of_ne hx ha, List.cons_append]

/-- A text without separators is its only piece. -/
lemma fields_of_not_mem (h : sep ∉ s) : fields sep s = [s] := by
  induction s with
  | nil => rfl
  | cons b s ih =>
    have hb : b ≠ sep := fun heq => h (heq ▸ List.mem_cons_self)
    exact fields_cons_of_ne hb (ih fun hmem => h (List.mem_cons_of_mem b hmem))

/-- No piece has a separator. -/
lemma not_mem_of_mem_fields {f : Bytes} (h : f ∈ fields sep s) : sep ∉ f := by
  induction s generalizing f with
  | nil =>
    obtain rfl := List.mem_singleton.1 h
    exact List.not_mem_nil
  | cons b s ih =>
    obtain ⟨g, gs, hs⟩ := List.exists_cons_of_ne_nil (fields_ne_nil sep s)
    by_cases hb : b = sep
    · rw [hb, fields_cons_sep] at h
      rcases List.mem_cons.1 h with rfl | hmem
      · exact List.not_mem_nil
      · exact ih hmem
    · rw [fields_cons_of_ne hb hs] at h
      rcases List.mem_cons.1 h with rfl | hmem
      · intro hsep
        rcases List.mem_cons.1 hsep with heq | hsep
        · exact hb heq.symm
        · exact ih (hs ▸ List.mem_cons_self) hsep
      · exact ih (hs ▸ List.mem_cons_of_mem g hmem)

/-- There is one piece more than there are separators. -/
lemma length_fields (sep : UInt8) (s : Bytes) : (fields sep s).length = s.count sep + 1 := by
  induction s with
  | nil => rfl
  | cons b s ih =>
    by_cases hb : b = sep
    · rw [hb, fields_cons_sep, List.length_cons, ih, List.count_cons_self]
    · obtain ⟨f, fs, hs⟩ := List.exists_cons_of_ne_nil (fields_ne_nil sep s)
      rw [fields_cons_of_ne hb hs, List.count_cons_of_ne hb, ← ih, hs]
      rfl

/-- A piece is put in front of others with a separator between. -/
lemma joinWith_cons (a : Bytes) {parts : List Bytes} (h : parts ≠ []) :
    joinWith [sep] (a :: parts) = a ++ sep :: joinWith [sep] parts := by
  obtain ⟨b, rest, rfl⟩ := List.exists_cons_of_ne_nil h
  rw [joinWith, List.append_assoc, List.singleton_append]

/-- The pieces of a text put together are the text. -/
lemma joinWith_fields (sep : UInt8) (s : Bytes) : joinWith [sep] (fields sep s) = s := by
  induction s with
  | nil => rfl
  | cons b s ih =>
    by_cases hb : b = sep
    · rw [hb, fields_cons_sep, joinWith_cons _ (fields_ne_nil sep s), ih]
      rfl
    · obtain ⟨f, fs, hs⟩ := List.exists_cons_of_ne_nil (fields_ne_nil sep s)
      rw [fields_cons_of_ne hb hs]
      rw [hs] at ih
      cases fs with
      | nil => exact congrArg (b :: ·) ih
      | cons g gs =>
        rw [joinWith_cons _ (List.cons_ne_nil g gs)] at ih ⊢
        exact congrArg (b :: ·) ih

/-- Pieces that were put together are cut where they were, if none has a separator. -/
lemma fields_joinWith {parts : List Bytes} (hne : parts ≠ []) (h : ∀ p ∈ parts, sep ∉ p) :
    fields sep (joinWith [sep] parts) = parts := by
  induction parts with
  | nil => exact absurd rfl hne
  | cons a parts ih =>
    rw [List.forall_mem_cons] at h
    obtain ⟨ha, hparts⟩ := h
    cases parts with
    | nil => exact fields_of_not_mem ha
    | cons b rest =>
      have hrest : b :: rest ≠ [] := List.cons_ne_nil b rest
      rw [joinWith_cons a hrest, fields_append, fields_of_not_mem ha, ih hrest hparts]
      rfl

/-! ### Lists of named values -/

/-- The first entry of a name has its value. -/
lemma lookup_cons_eq {α : Type} (name : Bytes) (e : Bytes × α) (entries : List (Bytes × α)) :
    (e :: entries).lookup name = if name = e.1 then some e.2 else entries.lookup name := by
  by_cases hname : name = e.1
  · rw [if_pos hname, hname]
    exact List.lookup_cons_self
  · rw [if_neg hname, List.lookup_cons, beq_eq_false_iff_ne.2 hname]

/-- Among entries of different names, a name has a value if and only if it is there with it. -/
lemma lookup_eq_some_iff {α : Type} {entries : List (Bytes × α)}
    (hnodup : (entries.map (·.1)).Nodup) {name : Bytes} {a : α} :
    entries.lookup name = some a ↔ (name, a) ∈ entries := by
  induction entries with
  | nil => exact iff_of_false (by rintro ⟨⟩) List.not_mem_nil
  | cons e entries ih =>
    obtain ⟨hnot, hrest⟩ := List.nodup_cons.1 hnodup
    rw [lookup_cons_eq, List.mem_cons]
    by_cases hname : name = e.1
    · subst hname
      rw [if_pos rfl]
      constructor
      · intro h
        exact .inl (Prod.ext rfl (Option.some.inj h).symm)
      · rintro (heq | hmem)
        · exact congrArg (fun e => some e.2) heq.symm
        · exact absurd (List.mem_map_of_mem hmem) hnot
    · have hne : (name, a) ≠ e := fun heq => hname (congrArg Prod.fst heq)
      rw [if_neg hname, or_iff_right hne]
      exact ih hrest

/-- Entries of which some are left out by their names give the other names the same values. -/
lemma lookup_filter {α : Type} (p : Bytes → Bool) (entries : List (Bytes × α)) (name : Bytes) :
    (entries.filter fun e => p e.1).lookup name = if p name then entries.lookup name else none := by
  induction entries with
  | nil => simp
  | cons e entries ih =>
    rw [List.filter_cons, lookup_cons_eq]
    by_cases hname : name = e.1
    · by_cases he : p e.1
      · rw [if_pos he, lookup_cons_eq, if_pos hname, if_pos (hname ▸ he), if_pos hname]
      · rw [if_neg he, ih, hname, if_neg he, if_neg he]
    · rw [if_neg hname, ← ih]
      by_cases he : p e.1
      · rw [if_pos he, lookup_cons_eq, if_neg hname]
      · rw [if_neg he]

end Bytes

end ContainerEntry
