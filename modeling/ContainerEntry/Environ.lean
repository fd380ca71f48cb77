import ContainerEntry.Bytes

/-!
# Environments

An environment maps names to values.  It is kept as a list in ascending order of the names' bytes,
each name once, and the order is part of the type: two environments that give every name the same
value are equal, and writing one out needs no sorting.
-/

namespace ContainerEntry

/-- A map from names to values, in strictly ascending order of the names. -/
structure Environ where
  /-- The variables. -/
  toList : List (Bytes × Bytes)
  /-- The names ascend. -/
  ascending : toList.Pairwise fun a b => a.1 < b.1
  deriving DecidableEq

namespace Environ

/-- The environment without variables. -/
def empty : Environ := ⟨[], List.Pairwise.nil⟩

/-- A list of variables with one more, before the first greater name and in place of an equal
one. -/
def insertInto (name value : Bytes) : List (Bytes × Bytes) → List (Bytes × Bytes)
  | [] => [(name, value)]
  | (n, v) :: rest =>
    if name < n then (name, value) :: (n, v) :: rest
    else if name = n then (name, value) :: rest
    else (n, v) :: insertInto name value rest

/-- An inserted list holds the new variable and the old ones, and no others. -/
theorem mem_of_mem_insertInto {name value : Bytes} {p : Bytes × Bytes}
    {entries : List (Bytes × Bytes)} (h : p ∈ insertInto name value entries) :
    p = (name, value) ∨ p ∈ entries := by
  induction entries with
  | nil => simpa [insertInto] using h
  | cons e rest ih =>
    simp only [insertInto] at h
    split at h
    · simpa using h
    · split at h
      · rcases List.mem_cons.1 h with h | h
        · exact .inl h
        · exact .inr (List.mem_cons_of_mem _ h)
      · rcases List.mem_cons.1 h with h | h
        · exact .inr (h ▸ List.mem_cons_self)
        · exact (ih h).imp_right (List.mem_cons_of_mem _)

/-- Of two different names, one is before the other. -/
theorem lt_of_not_lt {a b : Bytes} (h : ¬ a < b) (hne : a ≠ b) : b < a := by
  rcases List.le_iff_lt_or_eq.1 (List.not_lt.1 h) with h | h
  · exact h
  · exact absurd h.symm hne

/-- Inserting keeps the order. -/
theorem pairwise_insertInto {name value : Bytes} {entries : List (Bytes × Bytes)}
    (h : entries.Pairwise fun a b => a.1 < b.1) :
    (insertInto name value entries).Pairwise fun a b => a.1 < b.1 := by
  induction entries with
  | nil => simp [insertInto]
  | cons e rest ih =>
    obtain ⟨hlt, hrest⟩ := List.pairwise_cons.1 h
    simp only [insertInto]
    split
    · next hname =>
      refine List.pairwise_cons.2 ⟨fun p hp => ?_, h⟩
      rcases List.mem_cons.1 hp with rfl | hp
      · exact hname
      · exact List.lt_trans hname (hlt p hp)
    · next hname =>
      split
      · next heq => exact List.pairwise_cons.2 ⟨fun p hp => heq ▸ hlt p hp, hrest⟩
      · next hne =>
        refine List.pairwise_cons.2 ⟨fun p hp => ?_, ih hrest⟩
        rcases mem_of_mem_insertInto hp with rfl | hp
        · exact lt_of_not_lt hname hne
        · exact hlt p hp

/-- The environment with a variable set. -/
def insert (env : Environ) (name value : Bytes) : Environ :=
  ⟨insertInto name value env.toList, pairwise_insertInto env.ascending⟩

/-- The environment with variables set one after another, so that the last of equal names
stays. -/
def insertAll (env : Environ) (vars : List (Bytes × Bytes)) : Environ :=
  vars.foldl (fun env (name, value) => env.insert name value) env

/-- The environment of a list of variables, of which the last of equal names counts. -/
def ofList (vars : List (Bytes × Bytes)) : Environ := empty.insertAll vars

/-- The environment without a name. -/
def erase (env : Environ) (name : Bytes) : Environ :=
  ⟨env.toList.filter (·.1 != name), env.ascending.filter _⟩

/-- The value of a name. -/
def get? (env : Environ) (name : Bytes) : Option Bytes := env.toList.lookup name

end Environ

end ContainerEntry
