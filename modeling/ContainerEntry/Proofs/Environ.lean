import Mathlib
import ContainerEntry.Environ
import ContainerEntry.Proofs.Basic

/-!
# Environments built from variables

Setting variables one after another gives an environment of these variables and no others, and
setting the variables of an environment gives the environment.

An environment is known by the values that it gives to names (`ext_get?`), and of equal names among
the variables that are set, the last counts (`get?_insertAll`).
-/

namespace ContainerEntry.Environ

open Bytes

/-! ### Variables that are in it -/

/-- A variable whose name is behind all others goes to the end. -/
lemma insertInto_of_lt {name value : Bytes} {entries : List (Bytes × Bytes)}
    (h : ∀ e ∈ entries, e.1 < name) :
    insertInto name value entries = entries ++ [(name, value)] := by
  induction entries with
  | nil => rfl
  | cons e entries ih =>
    obtain ⟨he, hentries⟩ := List.forall_mem_cons.1 h
    have hnot : ¬ name < e.1 := List.lt_asymm he
    have hne : name ≠ e.1 := fun heq => List.lt_irrefl e.1 (heq ▸ he)
    simp only [insertInto, if_neg hnot, if_neg hne, ih hentries, List.cons_append]

/-- Variables that ascend go to the end in order. -/
lemma insertAll_of_pairwise {env : Environ} {vars : List (Bytes × Bytes)}
    (h : (env.toList ++ vars).Pairwise fun a b => a.1 < b.1) :
    (env.insertAll vars).toList = env.toList ++ vars := by
  induction vars generalizing env with
  | nil => simp [insertAll]
  | cons v vars ih =>
    obtain ⟨-, -, hbefore⟩ := List.pairwise_append.1 h
    have hinsert : (env.insert v.1 v.2).toList = env.toList ++ [v] :=
      insertInto_of_lt fun e he => hbefore e he v List.mem_cons_self
    have hrest : ((env.insert v.1 v.2).toList ++ vars).Pairwise fun a b => a.1 < b.1 := by
      rw [hinsert, List.append_assoc]
      exact h
    have hall := ih hrest
    rw [hinsert, List.append_assoc] at hall
    exact hall

/-- Setting the variables of an environment gives the environment. -/
lemma ofList_toList (env : Environ) : ofList env.toList = env := by
  have hlist : (ofList env.toList).toList = env.toList :=
    insertAll_of_pairwise (by simpa [empty] using env.ascending)
  cases henv : ofList env.toList
  rw [henv] at hlist
  cases env
  cases hlist
  rfl

/-- What is set comes from the variables or was there. -/
lemma mem_of_mem_insertAll {env : Environ} {vars : List (Bytes × Bytes)} {v : Bytes × Bytes}
    (h : v ∈ (env.insertAll vars).toList) : v ∈ vars ∨ v ∈ env.toList := by
  induction vars generalizing env with
  | nil => exact .inr h
  | cons w vars ih =>
    have hrest : v ∈ ((env.insert w.1 w.2).insertAll vars).toList := h
    rcases ih hrest with hmem | hmem
    · exact .inl (List.mem_cons_of_mem w hmem)
    · rcases mem_of_mem_insertInto hmem with rfl | hmem
      · exact .inl List.mem_cons_self
      · exact .inr hmem

/-- An environment of variables has no others. -/
lemma mem_of_mem_ofList {vars : List (Bytes × Bytes)} {v : Bytes × Bytes}
    (h : v ∈ (ofList vars).toList) : v ∈ vars := by
  rcases mem_of_mem_insertAll h with hmem | hmem
  · exact hmem
  · cases hmem

/-! ### Values of names -/

/-- Variables of different names give them the same values in the other direction. -/
lemma lookup_reverse {vars : List (Bytes × Bytes)} (h : (vars.map Prod.fst).Nodup) (name : Bytes) :
    vars.reverse.lookup name = vars.lookup name := by
  induction vars with
  | nil => rfl
  | cons v vars ih =>
    obtain ⟨hfirst, hrest⟩ := List.nodup_cons.1 h
    rw [List.reverse_cons, List.lookup_append, ih hrest, lookup_cons_eq, lookup_cons_eq]
    by_cases hname : name = v.1
    · -- The first variable of the name is the only one, so none behind it is in its way.
      have hnone : vars.lookup name = none := by
        rw [List.lookup_eq_none_iff]
        intro u hu
        have hne : name ≠ u.1 := by
          intro heq
          exact hfirst (List.mem_map.2 ⟨u, hu, (hname.symm.trans heq).symm⟩)
        simpa using hne
      rw [if_pos hname, if_pos hname, hnone]
      rfl
    · rw [if_neg hname, if_neg hname]
      exact Option.or_none

/-- Inserting a variable sets the value of its name, and of no other. -/
lemma lookup_insertInto (name value : Bytes) (entries : List (Bytes × Bytes)) (other : Bytes) :
    (insertInto name value entries).lookup other =
      if other = name then some value else entries.lookup other := by
  induction entries with
  | nil => rw [insertInto, lookup_cons_eq]
  | cons e entries ih =>
    rw [insertInto, lookup_cons_eq]
    by_cases hlt : name < e.1
    · rw [if_pos hlt, lookup_cons_eq, lookup_cons_eq]
    · rw [if_neg hlt]
      by_cases heq : name = e.1
      · rw [if_pos heq, lookup_cons_eq, ← heq]
        by_cases hother : other = name
        · rw [if_pos hother, if_pos hother]
        · rw [if_neg hother, if_neg hother, if_neg hother]
      · rw [if_neg heq, lookup_cons_eq, ih]
        by_cases hother : other = name
        · rw [if_pos hother, if_pos hother, if_neg (hother ▸ heq)]
        · rw [if_neg hother, if_neg hother]

variable (env : Environ) (name value other : Bytes)

/-- A variable that is set has its value. -/
lemma get?_insert :
    (env.insert name value).get? other = if other = name then some value else env.get? other :=
  lookup_insertInto name value env.toList other

/-- A name that is erased has no value. -/
lemma get?_erase : (env.erase name).get? other = if other = name then none else env.get? other := by
  have hfilter := lookup_filter (· != name) env.toList other
  rw [get?, erase, hfilter]
  by_cases hother : other = name
  · simp [hother]
  · simp [hother, get?]

/-- **Of equal names among the variables that are set, the last counts.** -/
lemma get?_insertAll (vars : List (Bytes × Bytes)) :
    (env.insertAll vars).get? name = (vars.reverse.lookup name).or (env.get? name) := by
  induction vars generalizing env with
  | nil => rfl
  | cons v vars ih =>
    have hstep : env.insertAll (v :: vars) = (env.insert v.1 v.2).insertAll vars := rfl
    rw [hstep, ih, get?_insert, List.reverse_cons, List.lookup_append, lookup_cons_eq,
      Option.or_assoc]
    by_cases hname : name = v.1
    · rw [if_pos hname, if_pos hname]
      rfl
    · rw [if_neg hname, if_neg hname]
      rfl

/-- Of equal names in a list of variables, the last counts. -/
lemma get?_ofList (vars : List (Bytes × Bytes)) :
    (ofList vars).get? name = vars.reverse.lookup name := by
  rw [ofList, get?_insertAll]
  exact Option.or_none

/-- No name is in an environment twice. -/
lemma nodup_names : (env.toList.map Prod.fst).Nodup := by
  rw [List.Nodup, List.pairwise_map]
  refine env.ascending.imp fun hlt heq => ?_
  exact List.lt_irrefl _ (heq ▸ hlt)

/-- The variables of an environment are the names that have values. -/
lemma mem_toList_iff : (name, value) ∈ env.toList ↔ env.get? name = some value :=
  (lookup_eq_some_iff env.nodup_names).symm

/-! ### Environments with the same values -/

/-- A name in front of all others has no value. -/
lemma lookup_of_lt {entries : List (Bytes × Bytes)} {name : Bytes}
    (h : ∀ e ∈ entries, name < e.1) : entries.lookup name = none := by
  rw [List.lookup_eq_none_iff]
  intro e he
  have hne : name ≠ e.1 := by
    intro heq
    exact List.lt_irrefl e.1 (heq ▸ h e he)
  simpa using hne

/-- Of ascending variables that give all names the same values, none starts with a smaller name. -/
lemma not_lt_of_lookup_eq {e o : Bytes × Bytes} {entries others : List (Bytes × Bytes)}
    (hothers : (o :: others).Pairwise fun a b => a.1 < b.1)
    (h : ∀ name, (e :: entries).lookup name = (o :: others).lookup name) : ¬ e.1 < o.1 := by
  intro hlt
  obtain ⟨hfirst, -⟩ := List.pairwise_cons.1 hothers
  have hbehind : ∀ x ∈ o :: others, e.1 < x.1 :=
    List.forall_mem_cons.2 ⟨hlt, fun x hx => List.lt_trans hlt (hfirst x hx)⟩
  have hvalue := h e.1
  rw [lookup_cons_eq, if_pos rfl, lookup_of_lt hbehind] at hvalue
  cases hvalue

/-- Ascending variables that give all names the same values are the same. -/
lemma eq_of_lookup_eq {entries others : List (Bytes × Bytes)}
    (hentries : entries.Pairwise fun a b => a.1 < b.1)
    (hothers : others.Pairwise fun a b => a.1 < b.1)
    (h : ∀ name, entries.lookup name = others.lookup name) : entries = others := by
  induction entries generalizing others with
  | nil =>
    cases others with
    | nil => rfl
    | cons o others =>
      have hvalue := h o.1
      rw [lookup_cons_eq, if_pos rfl] at hvalue
      cases hvalue
  | cons e entries ih =>
    cases others with
    | nil =>
      have hvalue := h e.1
      rw [lookup_cons_eq, if_pos rfl] at hvalue
      cases hvalue
    | cons o others =>
      -- The smaller of two different first names would have a value on one side only.
      have hname : e.1 = o.1 := by
        by_contra hne
        have hlt := lt_of_not_lt (not_lt_of_lookup_eq hothers h) hne
        exact not_lt_of_lookup_eq hentries (fun name => (h name).symm) hlt
      have hvalue : e.2 = o.2 := by
        have hboth := h e.1
        rw [lookup_cons_eq, lookup_cons_eq, if_pos rfl, if_pos hname] at hboth
        exact Option.some.inj hboth
      obtain ⟨hfirst, hrest⟩ := List.pairwise_cons.1 hentries
      obtain ⟨hfirst', hrest'⟩ := List.pairwise_cons.1 hothers
      have htail : entries = others := by
        refine ih hrest hrest' fun name => ?_
        by_cases hfront : name = e.1
        · rw [hfront, lookup_of_lt hfirst, lookup_of_lt (hname ▸ hfirst')]
        · have hboth := h name
          rwa [lookup_cons_eq, lookup_cons_eq, if_neg hfront, if_neg (hname ▸ hfront)] at hboth
      rw [htail, Prod.ext hname hvalue]

/-- **An environment is known by the values that it gives to names.** -/
lemma ext_get? {env env' : Environ} (h : ∀ name, env.get? name = env'.get? name) : env = env' := by
  cases env with
  | mk entries hentries =>
    cases env' with
    | mk others hothers =>
      obtain rfl : entries = others := eq_of_lookup_eq hentries hothers h
      rfl

end ContainerEntry.Environ
