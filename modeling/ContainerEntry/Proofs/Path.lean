import Mathlib
import ContainerEntry.Path
import ContainerEntry.Proofs.Basic

/-!
# Where paths lead

A path has an origin and the steps of its pieces (`components_eq`).  Behind a slash only the pieces
that are there count, so a plain name that is looked up from a path is one step more, whatever the
path is (`IsPlain.components_join`).  Normal components are plain names, and from there:

* **Going down stays below** (`components_descend`): the steps of the path come first, and then the
  normal components of the parts, which are the names among the steps of each (`normals_eq`).
* **Grouping does not count** (`descend_joinWith`): parts lead to the same path when some of them
  are joined by slashes.
-/

namespace ContainerEntry.Path

open Bytes

/-- The entry of a directory that a step leads to. -/
def Component.name? : Component → Option Bytes
  | .normal name => some name
  | .root | .here | .parent => none

/-- The step of a piece, if it is one. -/
def stepOf? (piece : Bytes) : Option Component :=
  if piece = [] || piece = [dot] then none
  else if piece = [dot, dot] then some .parent
  else some (.normal piece)

/-- Where a path starts: at the root, or at a directory that it writes as a dot, or anywhere. -/
def origin (p : Bytes) : List Component :=
  if isAbsolute p then [.root]
  else if (fields slash p).head? = some [dot] then [.here] else []

variable {base name p : Bytes}

/-! ### Steps -/

/-- A path's steps are its origin and the steps of its pieces. -/
lemma components_eq (p : Bytes) :
    components p = origin p ++ (fields slash p).filterMap stepOf? := by
  unfold components origin
  split_ifs with habsolute hdot
  · rfl
  · obtain ⟨rest, hfields⟩ := List.head?_eq_some_iff.1 hdot
    rw [hfields]
    rfl
  · split
    next rest hfields => exact absurd (by rw [hfields]; rfl) hdot
    next => rfl

/-- A path is absolute if a slash is in front. -/
lemma isAbsolute_cons (b : UInt8) (rest : Bytes) : isAbsolute (b :: rest) = (b == slash) := by
  unfold isAbsolute
  split
  next heq => exact (beq_iff_eq.2 (List.cons.inj heq).1).symm
  next hne => exact (beq_eq_false_iff_ne.2 fun heq => hne rest (congrArg (· :: rest) heq)).symm

/-- A path goes on behind a slash where it started. -/
lemma origin_append (h : base ≠ []) (more : Bytes) :
    origin (base ++ slash :: more) = origin base := by
  have habsolute : isAbsolute (base ++ slash :: more) = isAbsolute base := by
    obtain ⟨b, rest, rfl⟩ := List.exists_cons_of_ne_nil h
    rw [List.cons_append, isAbsolute_cons, isAbsolute_cons]
  obtain ⟨f, fs, hfields⟩ := List.exists_cons_of_ne_nil (fields_ne_nil slash base)
  rw [origin, origin, habsolute, fields_append, hfields]
  rfl

/-- Where a path starts does not depend on what is behind a slash. -/
lemma origin_append_slash (front more : Bytes) :
    origin (front ++ slash :: more) = origin (front ++ [slash]) := by
  by_cases hfront : front = []
  · simp only [hfront, List.nil_append, origin, isAbsolute_cons]
    rfl
  · rw [origin_append hfront, origin_append hfront]

/-- Behind a slash, a path has the steps of the pieces that are there. -/
lemma components_append (front more : Bytes) :
    components (front ++ slash :: more) =
      components (front ++ [slash]) ++ (fields slash more).filterMap stepOf? := by
  have hempty : (fields slash []).filterMap stepOf? = [] := rfl
  rw [components_eq, components_eq, origin_append_slash, fields_append, fields_append,
    List.filterMap_append, List.filterMap_append, hempty, List.append_nil, List.append_assoc]

/-- A slash at the end of a path leads nowhere. -/
lemma components_append_slash (h : base ≠ []) :
    components (base ++ [slash]) = components base := by
  have hempty : (fields slash []).filterMap stepOf? = [] := rfl
  rw [components_eq, components_eq, origin_append h, fields_append, List.filterMap_append, hempty,
    List.append_nil]

/-! ### Plain names -/

/-- A text that names an entry of a directory and nothing else. -/
structure IsPlain (name : Bytes) : Prop where
  /-- It is one piece. -/
  slash_not_mem : slash ∉ name
  /-- It is neither empty nor made of one or two dots. -/
  isNormal : isNormal name

/-- A normal piece is a step to an entry. -/
lemma stepOf?_of_isNormal (h : isNormal name) : stepOf? name = some (.normal name) := by
  simp only [isNormal, Bool.and_eq_true, bne_iff_ne] at h
  obtain ⟨⟨hnil, hdot⟩, hparent⟩ := h
  simp [stepOf?, hnil, hdot, hparent]

namespace IsPlain

/-- The one piece of a plain name is a step. -/
lemma steps_eq (h : IsPlain name) : (fields slash name).filterMap stepOf? = [.normal name] := by
  rw [fields_of_not_mem h.slash_not_mem, List.filterMap_cons, stepOf?_of_isNormal h.isNormal]
  rfl

/-- A plain name is not absolute. -/
lemma isAbsolute_eq (h : IsPlain name) : isAbsolute name = false := by
  cases name with
  | nil => rfl
  | cons b rest =>
    rw [isAbsolute_cons]
    exact beq_eq_false_iff_ne.2 fun heq => h.slash_not_mem (heq ▸ List.mem_cons_self)

/-- A plain name starts anywhere. -/
lemma origin_eq (h : IsPlain name) : origin name = [] := by
  have hdot : name ≠ [dot] := by
    rintro rfl
    exact absurd h.isNormal (by decide)
  rw [origin, h.isAbsolute_eq, fields_of_not_mem h.slash_not_mem]
  simp [hdot]

/-- A plain name is a path of one step. -/
lemma components_eq (h : IsPlain name) : components name = [.normal name] := by
  rw [Path.components_eq, h.origin_eq, h.steps_eq]
  rfl

/-- **A plain name looked up from a path is one step more**, wherever the path leads. -/
lemma components_join (h : IsPlain name) (base : Bytes) :
    components (join base name) = components base ++ [.normal name] := by
  rw [join, h.isAbsolute_eq, if_neg Bool.false_ne_true]
  by_cases hbase : base = []
  · rw [hbase]
    exact h.components_eq
  -- A base with a slash at its end is kept as it is; any other gets one, which leads nowhere.
  by_cases hslash : endsInSlash base
  · obtain ⟨front, rfl⟩ := List.getLast?_eq_some_iff.1 (beq_iff_eq.1 hslash)
    rw [hslash, Bool.or_true, if_pos rfl, List.append_assoc, List.singleton_append,
      components_append, h.steps_eq]
  · rw [if_neg (by simp [hbase, hslash]), components_append, components_append_slash hbase,
      h.steps_eq]

end IsPlain

/-! ### Normal components -/

/-- What a piece leads to is a normal piece itself. -/
lemma stepOf?_bind_name? (piece : Bytes) :
    (stepOf? piece).bind Component.name? = if isNormal piece then some piece else none := by
  by_cases hnormal : isNormal piece
  · rw [stepOf?_of_isNormal hnormal, if_pos hnormal]
    rfl
  · rw [if_neg hnormal]
    unfold stepOf?
    split_ifs with hskipped hparent
    · rfl
    · rfl
    · refine absurd ?_ hnormal
      simp only [Bool.or_eq_true, decide_eq_true_eq, not_or] at hskipped
      simp [isNormal, hskipped, hparent]

/-- The normal components of a path are the names among its steps. -/
lemma normals_eq (p : Bytes) : normals p = (components p).filterMap Component.name? := by
  have horigin : (origin p).filterMap Component.name? = [] := by
    unfold origin
    split_ifs <;> rfl
  rw [components_eq, List.filterMap_append, horigin, List.nil_append, List.filterMap_filterMap,
    funext stepOf?_bind_name?, normals, ← List.filterMap_eq_filter]
  rfl

/-- A normal component is a plain name. -/
lemma isPlain_of_mem_normals (h : name ∈ normals p) : IsPlain name := by
  obtain ⟨hmem, hnormal⟩ := List.mem_filter.1 h
  exact ⟨not_mem_of_mem_fields hmem, hnormal⟩

/-- Looked up one after another, plain names are so many steps more. -/
lemma components_foldl_join {names : List Bytes} (h : ∀ name ∈ names, IsPlain name)
    (base : Bytes) :
    components (names.foldl join base) = components base ++ names.map .normal := by
  induction names generalizing base with
  | nil => exact (List.append_nil _).symm
  | cons name names ih =>
    obtain ⟨hname, hnames⟩ := List.forall_mem_cons.1 h
    rw [List.foldl_cons, ih hnames, hname.components_join, List.append_assoc,
      List.singleton_append, List.map_cons]

/-- **What goes down from a path has the path's steps and then the normal components of the
parts.** -/
lemma components_descend (base : Bytes) (parts : List Bytes) :
    components (descend base parts) =
      components base ++ (parts.flatMap normals).map .normal := by
  refine components_foldl_join (fun name hname => ?_) base
  obtain ⟨part, -, hpart⟩ := List.mem_flatMap.1 hname
  exact isPlain_of_mem_normals hpart

/-! ### Parts that are joined -/

/-- A path with a slash in it has the normal components of both sides. -/
lemma normals_append (a b : Bytes) : normals (a ++ slash :: b) = normals a ++ normals b := by
  rw [normals, fields_append, List.filter_append]
  rfl

/-- Parts with slashes between them have the normal components of the parts. -/
lemma normals_joinWith (parts : List Bytes) :
    normals (joinWith [slash] parts) = parts.flatMap normals := by
  induction parts with
  | nil => rfl
  | cons a rest ih =>
    cases rest with
    | nil => simp [joinWith]
    | cons b rest =>
      rw [joinWith, List.append_assoc, List.singleton_append, normals_append, ih]
      rfl

/-- **What parts lead to does not depend on how they are grouped.** -/
lemma descend_joinWith (base : Bytes) (groups : List (List Bytes)) :
    descend base (groups.map (joinWith [slash])) = descend base groups.flatten := by
  have hnormals : (groups.map (joinWith [slash])).flatMap normals =
      groups.flatten.flatMap normals := by
    rw [List.flatMap_map, funext normals_joinWith, List.flatten_eq_flatMap, List.flatMap_assoc]
    rfl
  rw [descend, descend, hnormals]

end ContainerEntry.Path
