import Mathlib
import ContainerEntry.Filesystem.Tree

/-!
# Walks as a relation

`Filesystem.walk` is a recursion on the links left with a second recursion on the names inside it,
and it hands the second one a function for the links.  A proof about where a path leads wants the
single steps instead.  `Walks` is the same walk as a relation, one rule for each thing that can
happen at the next name.

* **The relation is the function** (`walk_eq_ok_iff`): a walk comes to a place exactly when the
  rules derive that place.  `resolve_eq_ok_iff` says the same of a whole path.
* **A vacant place is vacant** (`Walks.vacant_inv`): where a walk ends at a name that is not there,
  it stands in a directory, and the directory does not hold the name.

Refusals are not described: a walk that ends in an error is one for which nothing is derived.
-/

namespace ContainerEntry.Filesystem

open Bytes

/-! ### The rules -/

/-- The name is looked up in the directory: it is none of the names with a meaning of their own, and
no rule about length or a slash behind it refuses it. -/
structure IsLookedUp (last : LastName) (name : Bytes) (rest : List Bytes) : Prop where
  /-- It is not the empty name between two slashes. -/
  ne_nil : name ≠ []
  /-- It is not the directory itself. -/
  ne_dot : name ≠ [dot]
  /-- It is not the parent. -/
  ne_dots : name ≠ [dot, dot]
  /-- A file is wanted only where no slash stands behind the name. -/
  not_refused : ¬ (last = .wantedFile ∧ rest ≠ [] ∧ rest.all List.isEmpty)
  /-- It is not too long. -/
  length_le : name.length ≤ maxName

/-- A walk through names that may still follow so many links, as a relation: where it starts, the
names, and the place it comes to. -/
inductive Walks (fs : Filesystem) (last : LastName) : Nat → Inode → List Bytes → Place → Prop where
  /-- No name is left. -/
  | arrive {links here} : Walks fs last links here [] (.found here false)
  /-- Only a slash is left. -/
  | slash {links here} : Walks fs last links here [[]] (.found here true)
  /-- The name stands for the directory itself. -/
  | stay {links here parent entries name rest place}
      (hdir : fs.node? here = some (.directory parent entries))
      (hname : name = [] ∧ rest ≠ [] ∨ name = [dot])
      (next : Walks fs last links here rest place) : Walks fs last links here (name :: rest) place
  /-- The name stands for the parent. -/
  | ascend {links here parent entries rest place}
      (hdir : fs.node? here = some (.directory parent entries))
      (next : Walks fs last links parent rest place) :
      Walks fs last links here ([dot, dot] :: rest) place
  /-- The directory does not hold the name, and nothing but slashes stands behind it. -/
  | miss {links here parent entries name rest}
      (hdir : fs.node? here = some (.directory parent entries)) (hname : IsLookedUp last name rest)
      (hnone : entries.lookup name = none) (hrest : rest.all List.isEmpty) :
      Walks fs last links here (name :: rest) (.vacant here name !rest.isEmpty)
  /-- The name is a link's, and the link itself is meant. -/
  | link {links here parent entries name i target}
      (hdir : fs.node? here = some (.directory parent entries)) (hname : IsLookedUp last name [])
      (hsome : entries.lookup name = some i) (hlink : fs.node? i = some (.symlink target))
      (hlast : last = .itself) : Walks fs last links here [name] (.found i false)
  /-- The name is a link's, and the link is followed. -/
  | follow {links here parent entries name rest i target place}
      (hdir : fs.node? here = some (.directory parent entries)) (hname : IsLookedUp last name rest)
      (hsome : entries.lookup name = some i) (hlink : fs.node? i = some (.symlink target))
      (hlast : ¬ (rest = [] ∧ last = .itself))
      (next : Walks fs last links (fs.start target here) (pieces target ++ rest) place) :
      Walks fs last (links + 1) here (name :: rest) place
  /-- The name is that of anything else. -/
  | enter {links here parent entries name rest i place}
      (hdir : fs.node? here = some (.directory parent entries)) (hname : IsLookedUp last name rest)
      (hsome : entries.lookup name = some i)
      (hlink : ∀ target, fs.node? i ≠ some (.symlink target))
      (next : Walks fs last links i rest place) : Walks fs last links here (name :: rest) place

/-! ### The relation and the function -/

/-- What a walk does at a link when it may still follow so many. -/
def followLink (fs : Filesystem) (last : LastName) :
    Nat → Inode → Bytes → List Bytes → Except Errno Place
  | 0, _, _, _ => .error .tooManyLinks
  | links + 1, here, target, rest =>
    fs.walk last links (fs.start target here) (pieces target ++ rest)

/-- A walk is one walk between two links, with `followLink` at the next link. -/
lemma walk_eq_walkNames (fs : Filesystem) (last : LastName) (links : Nat) (here : Inode)
    (names : List Bytes) :
    fs.walk last links here names = fs.walkNames last (fs.followLink last links) here names := by
  cases links <;> rfl

variable {fs : Filesystem} {last : LastName}

/-- One walk between two links is derivable, if what it does at a link is. -/
lemma walks_of_walkNames {links : Nat} {onLink : Inode → Bytes → List Bytes → Except Errno Place}
    (honLink : ∀ here target rest place, onLink here target rest = .ok place →
      ∃ n, links = n + 1 ∧ Walks fs last n (fs.start target here) (pieces target ++ rest) place)
    (names : List Bytes) : ∀ (here : Inode) (place : Place),
      fs.walkNames last onLink here names = .ok place → Walks fs last links here names place := by
  induction names with
  | nil =>
    intro here place h
    cases h
    exact .arrive
  | cons name rest ih =>
    intro here place h
    rw [walkNames] at h
    split at h
    · next hslash =>
      obtain ⟨rfl, rfl⟩ : name = [] ∧ rest = [] := by simpa using hslash
      cases h
      exact .slash
    next hslash =>
    -- from here on the walk has to stand in a directory
    split at h
    case h_2 => cases h
    next parent entries hdir =>
    split at h
    · next hstay =>
      refine .stay hdir ?_ (ih here place h)
      rcases (by simpa using hstay : name = [] ∨ name = [dot]) with rfl | rfl
      · exact .inl ⟨rfl, by simpa using hslash⟩
      · exact .inr rfl
    next hstay =>
    split at h
    · next hup =>
      subst hup
      exact .ascend hdir (ih parent place h)
    next hup =>
    split at h
    · cases h
    next hfile =>
    split at h
    · cases h
    next hlong =>
    have hname : IsLookedUp last name rest := by
      simp only [Bool.or_eq_true, List.isEmpty_iff, decide_eq_true_eq, not_or] at hstay
      exact ⟨hstay.1, hstay.2, hup, by simpa [and_assoc] using hfile, not_lt.1 hlong⟩
    split at h
    · next hnone =>
      split at h
      · next hrest =>
        cases h
        exact .miss hdir hname hnone hrest
      · cases h
    next i hsome =>
    split at h
    · next target hlink =>
      split at h
      · next hlast =>
        obtain ⟨rfl, hitself⟩ : rest = [] ∧ last = .itself := by simpa using hlast
        cases h
        exact .link hdir hname hsome hlink hitself
      · next hlast =>
        obtain ⟨n, rfl, next⟩ := honLink here target rest place h
        exact .follow hdir hname hsome hlink (by simpa using hlast) next
    · next hlink => exact .enter hdir hname hsome hlink (ih i place h)

/-- Whatever a walk comes to is derivable. -/
lemma walks_of_walk (links : Nat) : ∀ (here : Inode) (names : List Bytes) (place : Place),
    fs.walk last links here names = .ok place → Walks fs last links here names place := by
  induction links with
  | zero =>
    intro here names place h
    rw [walk_eq_walkNames] at h
    exact walks_of_walkNames (fun _ _ _ _ hlink => by cases hlink) names here place h
  | succ links ih =>
    intro here names place h
    rw [walk_eq_walkNames] at h
    exact walks_of_walkNames (fun here target rest place hlink => ⟨links, rfl, ih _ _ place hlink⟩)
      names here place h

/-- What the conditions of a name that is looked up say in the terms of the walk. -/
lemma IsLookedUp.conditions {name : Bytes} {rest : List Bytes} (h : IsLookedUp last name rest) :
    (name.isEmpty && rest.isEmpty) = false ∧ (name.isEmpty || decide (name = [dot])) = false ∧
      (decide (last = .wantedFile) && !rest.isEmpty && rest.all List.isEmpty) = false := by
  refine ⟨?_, ?_, ?_⟩
  · simp [h.ne_nil]
  · simp [h.ne_nil, h.ne_dot]
  · rw [← Bool.not_eq_true]
    simpa [and_assoc] using h.not_refused

/-- A name that is looked up is looked up. -/
lemma walk_of_isLookedUp {links : Nat} {here parent : Inode} {entries : List (Bytes × Inode)}
    {name : Bytes} {rest : List Bytes} (hdir : fs.node? here = some (.directory parent entries))
    (hname : IsLookedUp last name rest) :
    fs.walk last links here (name :: rest) =
      match entries.lookup name with
      | none =>
        if rest.all List.isEmpty then .ok (.vacant here name !rest.isEmpty) else .error .noEntry
      | some i =>
        match fs.node? i with
        | some (.symlink target) =>
          if rest.isEmpty && last = .itself then .ok (.found i false)
          else fs.followLink last links here target rest
        | _ => fs.walk last links i rest := by
  obtain ⟨hslash, hstay, hfile⟩ := hname.conditions
  have hlong := not_lt.2 hname.length_le
  simp only [walk_eq_walkNames]
  rw [walkNames]
  cases hlookup : entries.lookup name with
  | none => simp [hslash, hdir, hstay, hname.ne_dots, hfile, hlong, hlookup]
  | some i =>
    cases hnode : fs.node? i with
    | none => simp [hslash, hdir, hstay, hname.ne_dots, hfile, hlong, hlookup, hnode]
    | some node =>
      cases node <;> simp [hslash, hdir, hstay, hname.ne_dots, hfile, hlong, hlookup, hnode]

/-- Whatever is derivable is what a walk comes to. -/
lemma walk_of_walks {links : Nat} {here : Inode} {names : List Bytes} {place : Place}
    (h : Walks fs last links here names place) : fs.walk last links here names = .ok place := by
  induction h with
  | arrive => rw [walk_eq_walkNames]; rfl
  | slash => rw [walk_eq_walkNames]; rfl
  | stay hdir hname _ ih =>
    rw [walk_eq_walkNames] at ih ⊢
    rw [walkNames]
    rcases hname with ⟨rfl, hrest⟩ | rfl
    · simpa [hdir, hrest] using ih
    · simpa [hdir] using ih
  | ascend hdir _ ih =>
    rw [walk_eq_walkNames] at ih ⊢
    rw [walkNames]
    simpa [hdir] using ih
  | miss hdir hname hnone hrest => rw [walk_of_isLookedUp hdir hname, hnone, if_pos hrest]
  | link hdir hname hsome hlink hlast =>
    rw [walk_of_isLookedUp hdir hname, hsome]
    simp [hlink, hlast]
  | follow hdir hname hsome hlink hlast _ ih =>
    rw [walk_of_isLookedUp hdir hname, hsome]
    simpa [hlink, hlast, followLink] using ih
  | enter hdir hname hsome hlink _ ih =>
    rw [walk_of_isLookedUp hdir hname, hsome]
    simpa only using ih

/-- **A walk comes to a place exactly when the rules derive it.** -/
theorem walk_eq_ok_iff {links : Nat} {here : Inode} {names : List Bytes} {place : Place} :
    fs.walk last links here names = .ok place ↔ Walks fs last links here names place :=
  ⟨walks_of_walk links here names place, walk_of_walks⟩

/-- A path denotes a place exactly when it is neither empty nor too long and its walk is derivable
from where it starts. -/
theorem resolve_eq_ok_iff {path : Bytes} {place : Place} :
    fs.resolve path last = .ok place ↔
      path ≠ [] ∧ path.length < maxPath ∧
        Walks fs last maxLinks (fs.start path fs.here) (pieces path) place := by
  rw [resolve]
  split
  · next hempty => simp [List.isEmpty_iff.1 hempty]
  next hempty =>
  split
  · next hlong => simp [not_lt.2 hlong]
  · next hlong =>
    rw [walk_eq_ok_iff]
    simp [List.isEmpty_iff.not.1 hempty, not_le.1 hlong]

/-- A walk that ends at a vacant name stands in a directory that does not hold it. -/
lemma Walks.vacant_inv {links : Nat} {here directory : Inode} {names : List Bytes} {name : Bytes}
    {asDirectory : Bool} (h : Walks fs last links here names (.vacant directory name asDirectory)) :
    ∃ parent entries, fs.node? directory = some (.directory parent entries) ∧
      entries.lookup name = none := by
  generalize hplace : Place.vacant directory name asDirectory = place at h
  induction h with
  | arrive | slash | link => cases hplace
  | stay _ _ _ ih | ascend _ _ ih | follow _ _ _ _ _ _ ih | enter _ _ _ _ _ ih => exact ih hplace
  | miss hdir _ hnone _ =>
    cases hplace
    exact ⟨_, _, hdir, hnone⟩

/-- A walk that ends at a vacant name starts in a directory. -/
lemma Walks.directory_of_vacant {links : Nat} {here directory : Inode} {names : List Bytes}
    {name : Bytes} {asDirectory : Bool}
    (h : Walks fs last links here names (.vacant directory name asDirectory)) :
    ∃ parent entries, fs.node? here = some (.directory parent entries) := by
  cases h with
  | stay hdir | ascend hdir | miss hdir | follow hdir | enter hdir => exact ⟨_, _, hdir⟩

end ContainerEntry.Filesystem
