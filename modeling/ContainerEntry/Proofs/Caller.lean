import Mathlib
import ContainerEntry.Caller
import ContainerEntry.Proofs.Text.Decimal

/-!
# Who calls

Beneath a privilege wrapper the process is root's, and only a variable tells whom it stands for.
The wrappers' variables are looked at in order, the first that says anything counts, and if it does
not say a user id then there is no caller: a reader that fell back to the next variable, or to
nobody's variable at all, would take the caller for root.

* **The first variable that is set counts** (`Names`, `uidFrom_of_names`): it either makes the
  result or makes it a failure, and what is behind it is not looked at.
* **A user id is a number of 32 bits** (`Account.readUid?_eq_some_iff`), in any spelling that writes
  one.
* **A caller has been read from the variables as they are** (`resolveUid_of_current`): a variable
  that is no text is passed over in the look-up, but then there is no caller.

`resolveUid_failsClosed` says what comes of every look-up.
-/

namespace ContainerEntry

open Bytes Text

/-- A user id is read from what writes a number of 32 bits, and from nothing else. -/
lemma Account.readUid?_eq_some_iff {s : Bytes} {uid : UInt32} :
    readUid? s = some uid ↔ ∃ n < 2 ^ 32, Writes s n ∧ uid = UInt32.ofNat n := by
  simp only [readUid?, Option.bind_eq_some_iff, readUnsigned?_eq_some_iff]
  constructor
  · rintro ⟨n, hwrites, hread⟩
    split_ifs at hread with hlt
    exact ⟨n, hlt, hwrites, (Option.some.inj hread).symm⟩
  · rintro ⟨n, hlt, hwrites, rfl⟩
    exact ⟨n, hwrites, if_pos hlt⟩

/-- No user id is read from what writes no number of 32 bits. -/
lemma Account.readUid?_eq_none_iff {s : Bytes} :
    readUid? s = none ↔ ¬ ∃ n < 2 ^ 32, Writes s n := by
  rw [Option.eq_none_iff_forall_ne_some]
  simp only [ne_eq, readUid?_eq_some_iff]
  constructor
  · rintro h ⟨n, hlt, hwrites⟩
    exact h _ ⟨n, hlt, hwrites, rfl⟩
  · rintro h uid ⟨n, hlt, hwrites, -⟩
    exact h ⟨n, hlt, hwrites⟩

namespace Caller

/-! ### The variable that counts -/

/-- A variable that says nothing: it is absent or empty. -/
def IsUnset (lookup : Bytes → Option Bytes) (var : Bytes) : Prop :=
  lookup var = none ∨ lookup var = some []

instance (lookup : Bytes → Option Bytes) (var : Bytes) : Decidable (IsUnset lookup var) :=
  inferInstanceAs (Decidable (lookup var = none ∨ lookup var = some []))

/-- The first of some variables that says anything, and what it says. -/
structure Names (lookup : Bytes → Option Bytes) (vars : List Bytes) (var value : Bytes) : Prop where
  /-- The variable has the value. -/
  lookup_eq : lookup var = some value
  /-- The value is something. -/
  ne_nil : value ≠ []
  /-- All variables in front of it say nothing. -/
  first : ∃ front behind, vars = front ++ var :: behind ∧ ∀ earlier ∈ front, IsUnset lookup earlier

variable {lookup lookup' : Bytes → Option Bytes} {names front : List Bytes} {var value : Bytes}

/-- Variables that say nothing are passed over. -/
lemma uidFrom_append (h : ∀ earlier ∈ front, IsUnset lookup earlier) (names : List Bytes) :
    uidFrom lookup (front ++ names) = uidFrom lookup names := by
  induction front with
  | nil => rfl
  | cons earlier front ih =>
    obtain ⟨hearlier, hfront⟩ := List.forall_mem_cons.1 h
    rw [List.cons_append, uidFrom]
    rcases hearlier with hnone | hempty
    · rw [hnone]
      exact ih hfront
    · rw [hempty]
      exact ih hfront

/-- Variables that all say nothing stand for root. -/
lemma uidFrom_of_unset (h : ∀ var ∈ names, IsUnset lookup var) : uidFrom lookup names = .ok 0 := by
  rw [← List.append_nil names, uidFrom_append h, uidFrom]

/-- **The first variable that says anything decides.** -/
lemma uidFrom_of_names (h : Names lookup names var value) :
    uidFrom lookup names =
      match Account.readUid? value with
      | none => .error (.user (.notUid var value))
      | some uid => .ok uid := by
  obtain ⟨front, behind, rfl, hfront⟩ := h.first
  rw [uidFrom_append hfront, uidFrom, h.lookup_eq]
  split
  · next hnone => cases hnone
  · next hempty => exact absurd (Option.some.inj hempty) h.ne_nil
  · next hsome =>
    cases hsome
    rfl

/-- Either no variable says anything, or one of them is the first that does. -/
lemma unset_or_names (lookup : Bytes → Option Bytes) (names : List Bytes) :
    (∀ var ∈ names, IsUnset lookup var) ∨ ∃ var value, Names lookup names var value := by
  cases hfind : names.find? fun var => ¬ IsUnset lookup var with
  | none =>
    left
    intro var hvar
    simpa using List.find?_eq_none.1 hfind var hvar
  | some var =>
    right
    obtain ⟨hset, front, behind, hnames, hfront⟩ := List.find?_eq_some_iff_append.1 hfind
    have hvar : ¬ IsUnset lookup var := of_decide_eq_true hset
    obtain ⟨value, hvalue⟩ := Option.ne_none_iff_exists'.1 fun hnone => hvar (.inl hnone)
    refine ⟨var, value, hvalue, ?_, front, behind, hnames, ?_⟩
    · rintro rfl
      exact hvar (.inr hvalue)
    · intro earlier hearlier
      simpa using hfront earlier hearlier

/-- The wrappers' variables are all that names a user id. -/
lemma uidFrom_congr {lookup lookup' : Bytes → Option Bytes} {names : List Bytes}
    (h : ∀ name ∈ names, lookup name = lookup' name) :
    uidFrom lookup names = uidFrom lookup' names := by
  induction names with
  | nil => rfl
  | cons name names ih =>
    obtain ⟨hname, hnames⟩ := List.forall_mem_cons.1 h
    simp only [uidFrom, hname, ih hnames]

/-! ### What comes of a look-up -/

/-- A user id comes of nothing that is said, as root's, or of the first that is said. -/
lemma resolveUid_eq_ok_iff {uid : UInt32} :
    resolveUid lookup = .ok uid ↔
      ((∀ var ∈ wrapperVariables, IsUnset lookup var) ∧ uid = 0) ∨
      ∃ var value, Names lookup wrapperVariables var value ∧ Account.readUid? value = some uid := by
  constructor
  · intro h
    rcases unset_or_names lookup wrapperVariables with hunset | ⟨var, value, hnames⟩
    · rw [resolveUid, uidFrom_of_unset hunset] at h
      exact .inl ⟨hunset, (Except.ok.inj h).symm⟩
    · rw [resolveUid, uidFrom_of_names hnames] at h
      cases hread : Account.readUid? value with
      | none =>
        rw [hread] at h
        cases h
      | some read =>
        rw [hread] at h
        cases h
        exact .inr ⟨var, value, hnames, hread⟩
  · rintro (⟨hunset, rfl⟩ | ⟨var, value, hnames, hread⟩)
    · exact uidFrom_of_unset hunset
    · rw [resolveUid, uidFrom_of_names hnames, hread]

/-- A failure comes of the first that is said, if that is no user id. -/
lemma resolveUid_eq_error_iff {failure : Failure} :
    resolveUid lookup = .error failure ↔
      ∃ var value, Names lookup wrapperVariables var value ∧ Account.readUid? value = none ∧
        failure = .user (.notUid var value) := by
  constructor
  · intro h
    rcases unset_or_names lookup wrapperVariables with hunset | ⟨var, value, hnames⟩
    · rw [resolveUid, uidFrom_of_unset hunset] at h
      cases h
    · rw [resolveUid, uidFrom_of_names hnames] at h
      cases hread : Account.readUid? value with
      | none =>
        rw [hread] at h
        exact ⟨var, value, hnames, hread, (Except.error.inj h).symm⟩
      | some read =>
        rw [hread] at h
        cases h
  · rintro ⟨var, value, hnames, hread, rfl⟩
    rw [resolveUid, uidFrom_of_names hnames, hread]

/-- **Resolving the caller fails closed.**  Root calls if no variable of a wrapper says anything,
and otherwise the user whose id the first one that says something writes, as a number of 32 bits; if
that one writes none, the failure names it, whatever the other says.  So look-ups in which the same
variable is the first to say something, and says the same, have the same outcome. -/
theorem resolveUid_failsClosed (lookup : Bytes → Option Bytes) :
    (∀ uid, resolveUid lookup = .ok uid ↔
      ((∀ var ∈ wrapperVariables, IsUnset lookup var) ∧ uid = 0) ∨
      ∃ var value, Names lookup wrapperVariables var value ∧
        ∃ n < 2 ^ 32, Writes value n ∧ uid = UInt32.ofNat n) ∧
    (∀ failure, resolveUid lookup = .error failure ↔
      ∃ var value, Names lookup wrapperVariables var value ∧
        (¬ ∃ n < 2 ^ 32, Writes value n) ∧ failure = .user (.notUid var value)) ∧
    ∀ var value other, Names lookup wrapperVariables var value →
      Names other wrapperVariables var value → resolveUid other = resolveUid lookup := by
  refine ⟨fun uid => ?_, fun failure => ?_, fun var value other h hother => ?_⟩
  · rw [resolveUid_eq_ok_iff]
    simp only [Account.readUid?_eq_some_iff]
  · rw [resolveUid_eq_error_iff]
    simp only [Account.readUid?_eq_none_iff]
  · rw [resolveUid, resolveUid, uidFrom_of_names h, uidFrom_of_names hother]

/-- What a wrapper sets that leaves the first variable empty and writes the greatest user id in the
second, with a sign and with leading zeros. -/
def greatestUid (name : Bytes) : Option Bytes :=
  List.lookup name [(ofString "PKEXEC_UID", []), (ofString "SUDO_UID", ofString "+004294967295")]

/-- What a wrapper sets that writes one more than the greatest user id in the first variable, while
the second has a user id. -/
def tooGreatUid (name : Bytes) : Option Bytes :=
  List.lookup name
    [(ofString "PKEXEC_UID", ofString "4294967296"), (ofString "SUDO_UID", ofString "1000")]

/-- The greatest user id is read wherever else the variables come from, and one more is a failure
that the second variable does not mend. -/
theorem resolveUid_failsClosed_atBound :
    Names greatestUid wrapperVariables (ofString "SUDO_UID") (ofString "+004294967295") ∧
    resolveUid greatestUid = .ok 4294967295 ∧
    (∀ other, Names other wrapperVariables (ofString "SUDO_UID") (ofString "+004294967295") →
      resolveUid other = .ok 4294967295) ∧
    resolveUid tooGreatUid =
      .error (.user (.notUid (ofString "PKEXEC_UID") (ofString "4294967296"))) ∧
    ¬ ∃ n < 2 ^ 32, Writes (ofString "4294967296") n := by
  have hnames : Names greatestUid wrapperVariables (ofString "SUDO_UID")
      (ofString "+004294967295") :=
    ⟨by decide, by decide, [ofString "PKEXEC_UID"], [], rfl, by decide⟩
  have hread : resolveUid greatestUid = .ok 4294967295 := by rfl
  have hrefused : resolveUid tooGreatUid =
      .error (.user (.notUid (ofString "PKEXEC_UID") (ofString "4294967296"))) := by
    rfl
  refine ⟨hnames, hread, fun other hother => ?_, hrefused, ?_⟩
  · rw [(resolveUid_failsClosed greatestUid).2.2 _ _ other hnames hother, hread]
  · obtain ⟨var, value, -, hnone, hcause⟩ := ((resolveUid_failsClosed tooGreatUid).2.1 _).1 hrefused
    cases hcause
    exact hnone

/-! ### Callers -/

/-- The first variable that is no text. -/
def undecodable? (vars : List (Bytes × Bytes)) : Option (Bytes × Bytes) :=
  vars.find? fun v => !(isUtf8 v.1 && isUtf8 v.2)

/-- The user id of the caller and its account, before anything else is read of the variables. -/
def resolve (accounts : List Account) (vars : List (Bytes × Bytes)) :
    Except Failure (UInt32 × Account) :=
  match resolveUid (textVariable vars) with
  | .error failure => .error failure
  | .ok uid =>
    match Account.find? accounts uid with
    | none => .error (.user (.unknown uid.toNat))
    | some account => .ok (uid, account)

variable {accounts : List Account} {vars : List (Bytes × Bytes)}

/-- The caller is resolved, then every variable is read, and then some of them go along. -/
lemma current_eq (accounts : List Account) (vars : List (Bytes × Bytes)) :
    current accounts vars =
      match resolve accounts vars, undecodable? vars with
      | .error failure, _ => .error (.failed failure)
      | .ok _, some (name, value) => .error (.undecodable name value)
      | .ok (uid, account), none => .ok ⟨uid, account.name, select vars⟩ := by
  unfold current resolve
  cases resolveUid (textVariable vars) with
  | error failure => rfl
  | ok uid =>
    simp only
    cases Account.find? accounts uid with
    | none => rfl
    | some account =>
      unfold undecodable?
      cases vars.find? fun v => !(isUtf8 v.1 && isUtf8 v.2) <;> rfl

/-- Whoever cannot be resolved is no caller, and for no other reason. -/
lemma current_eq_failed_iff {failure : Failure} :
    current accounts vars = .error (.failed failure) ↔ resolve accounts vars = .error failure := by
  rw [current_eq]
  cases resolve accounts vars with
  | error f => simp
  | ok found => cases undecodable? vars <;> simp

/-- A variable ends the program if it is the first that is no text, and the caller is resolved. -/
lemma current_eq_undecodable_iff {name value : Bytes} :
    current accounts vars = .error (.undecodable name value) ↔
      (∃ found, resolve accounts vars = .ok found) ∧ undecodable? vars = some (name, value) := by
  rw [current_eq]
  cases resolve accounts vars with
  | error f => simp
  | ok found =>
    cases undecodable? vars with
    | none => simp
    | some v => simp [Prod.ext_iff]

/-- A caller is resolved, all variables are texts, and some of them go along. -/
lemma current_eq_ok_iff {caller : Caller} :
    current accounts vars = .ok caller ↔
      ∃ found, resolve accounts vars = .ok found ∧ undecodable? vars = none ∧
        ⟨found.1, found.2.name, select vars⟩ = caller := by
  rw [current_eq]
  cases resolve accounts vars with
  | error f => simp
  | ok found => cases undecodable? vars <;> simp

/-- A text among the variables is found by its name. -/
lemma textVariable_of_undecodable?_eq_none (h : undecodable? vars = none) :
    textVariable vars = fun name => vars.lookup name := by
  funext name
  unfold textVariable
  cases hvalue : vars.lookup name with
  | none => rfl
  | some value =>
    obtain ⟨front, behind, rfl, -⟩ := List.lookup_eq_some_iff.1 hvalue
    have htexts := List.find?_eq_none.1 h (name, value) (by simp)
    have htext : isUtf8 value = true := by
      simp only [Bool.not_eq_true', Bool.not_eq_false, Bool.and_eq_true] at htexts
      exact htexts.2
    exact if_pos htext

/-- **Whoever is a caller has been resolved from the variables as they are**, although the look-up
passes over variables that are no text: there is no caller with such a variable. -/
theorem resolveUid_of_current {caller : Caller} (h : current accounts vars = .ok caller) :
    resolveUid (fun name => vars.lookup name) = .ok caller.uid := by
  obtain ⟨⟨uid, account⟩, hresolve, htexts, rfl⟩ := current_eq_ok_iff.1 h
  rw [← textVariable_of_undecodable?_eq_none htexts]
  unfold resolve at hresolve
  split at hresolve
  · cases hresolve
  · next uid huid =>
    split at hresolve
    · cases hresolve
    · cases hresolve
      exact huid

end Caller

end ContainerEntry
