import Mathlib
import ContainerEntry.CommandLine.Grammar
import ContainerEntry.Proofs.Basic
import ContainerEntry.Proofs.Text.Decimal

/-!
# Command lines that are written to be read

A program that builds a command line for another one writes every option with its value attached to
it, then the arguments.  Such a line is read back option by option, whatever the values hold: a
value is behind its option's first equals sign, and an argument that takes everything leaves no word
behind its first to be looked at.

* **Options are read in order** (`read_written`, `read_options`), each of them noted with its value.
* **An argument that takes everything takes everything** (`read_everything`).
* **A level is complete** when what is pending suits and all that has to be given is
  (`complete_pending`).
-/

namespace ContainerEntry.CommandLine

open Bytes Text

/-- A user id that is written as a number is read back. -/
lemma readUid?_decimal (uid : UInt32) : readUid? (decimal uid.toNat) = some uid := by
  unfold readUid?
  rw [readInt?_decimal, Option.bind_some, if_pos]
  · simp
  · simpa using uid.toNat_lt

/-! ### Options -/

/-- An option as it is written, with its value attached to it. -/
def written (name : Bytes) : Option Bytes → Bytes
  | none => hyphen :: hyphen :: name
  | some value => hyphen :: hyphen :: (name ++ equals :: value)

/-- Everything read so far has been checked, and no argument has been met. -/
def Progress.settled (given : Given) : Progress := { Progress.start with given := given }

/-- Whether an option takes what is attached to it. -/
def Switch.Takes (o : Switch) : Option Bytes → Prop
  | none => o.effect = .flag
  | some value => ∃ kind, o.effect = .value kind ∧ kind.refusal? value = none

namespace Level

variable {l : Level} {o : Switch} {a : Positional} {given : Given} {name word : Bytes}
  {attached : Option Bytes} {rest words : List Bytes}

/-- The option of a long name has the name. -/
lemma long_of_long? (h : l.long? name = some o) : o.long = name := by
  simpa using List.find?_some h

/-- An option that takes what is attached to it is noted, if it was not given before. -/
lemma take_settled (htakes : o.Takes attached) (hnew : given.lookup o.long = none) :
    (Progress.settled given).take o attached =
      .ok (.settled (given ++ [(o.long, attached.toList)])) := by
  unfold Progress.take
  cases attached with
  | none =>
    have heffect : o.effect = .flag := htakes
    simp [Progress.settle, Progress.settled, Progress.start, heffect, hnew, bind, Except.bind]
  | some value =>
    obtain ⟨kind, heffect, hvalue⟩ := htakes
    simp [Progress.settle, Progress.settled, Progress.start, Progress.record, heffect, hnew, hvalue,
      bind, Except.bind]

/-- What is attached to an option is found behind its first equals sign. -/
lemma splitLong_written (hname : equals ∉ name) :
    splitLong ((written name attached).drop 2) = (name, attached) := by
  unfold splitLong written
  cases attached with
  | none =>
    have hcut := cut_of_not_mem hname
    simp [hcut]
  | some value =>
    have hcut := cut_append hname value
    simp [hcut]

/-- An option that is written is read. -/
lemma readOptions_written {p q : Progress} (ho : l.long? name = some o) (hname : equals ∉ name)
    (htakes : o.Takes attached) (htake : p.take o attached = .ok q) :
    l.readOptions p (written name attached) = .ok (.read q) := by
  have hsplit : splitLong ((written name attached).drop 2) = (name, attached) :=
    splitLong_written hname
  have hlong : l.readOptions p (written name attached) =
      l.readLong p ((written name attached).drop 2) := by
    cases attached <;> rfl
  rw [hlong, readLong, hsplit]
  simp only [ho]
  cases attached with
  | none =>
    rw [show o.effect = .flag from htakes]
    simp only [htake]
    rfl
  | some value =>
    obtain ⟨kind, heffect, -⟩ := htakes
    rw [heffect]
    simp only [htake]
    rfl

/-- A long option in the words of a level that has no subcommands is read and noted. -/
lemma read_written (hsub : l.subcommands = []) (ho : l.long? name = some o)
    (hname : equals ∉ name) (hne : name ≠ []) (htakes : o.Takes attached)
    (hnew : given.lookup name = none) (rest : List Bytes) :
    l.read (.settled given) (written name attached :: rest) =
      l.read (.settled (given ++ [(name, attached.toList)])) rest := by
  obtain rfl := long_of_long? ho
  have htake := take_settled htakes hnew
  have hread := readOptions_written ho hname htakes htake
  have hdashes : written o.long attached ≠ [hyphen, hyphen] := by
    cases attached <;> simp [written, hne]
  rw [read]
  simp only [hread]
  simp [Progress.settled, Progress.start, hsub, hdashes]

/-- Long options are read one after another, if none is given twice. -/
lemma read_options (hsub : l.subcommands = []) {options : List (Bytes × Option Bytes)}
    (hfits : ∀ e ∈ options, equals ∉ e.1 ∧ e.1 ≠ [] ∧ ∃ o, l.long? e.1 = some o ∧ o.Takes e.2)
    (hnodup : (options.map (·.1)).Nodup) (hnew : ∀ e ∈ options, given.lookup e.1 = none)
    (rest : List Bytes) :
    l.read (.settled given) (options.map (fun e => written e.1 e.2) ++ rest) =
      l.read (.settled (given ++ options.map fun e => (e.1, e.2.toList))) rest := by
  induction options generalizing given with
  | nil => simp
  | cons e options ih =>
    obtain ⟨⟨hname, hne, o, ho, htakes⟩, hfits⟩ := List.forall_mem_cons.1 hfits
    obtain ⟨hmem, hnodup⟩ := List.nodup_cons.1 hnodup
    obtain ⟨hfirst, hnew⟩ := List.forall_mem_cons.1 hnew
    rw [List.map_cons, List.cons_append, read_written hsub ho hname hne htakes hfirst,
      ih hfits hnodup]
    · simp
    · intro e' he'
      have hne' : e'.1 ≠ e.1 := by
        intro heq
        exact hmem (List.mem_map.2 ⟨e', he', heq⟩)
      rw [List.lookup_append, hnew e' he', Option.none_or, List.lookup_cons,
        beq_eq_false_iff_ne.2 hne']
      rfl

/-- A short flag is read and noted. -/
lemma read_short {c : UInt8} (hsub : l.subcommands = []) (ho : l.short? c = some o)
    (hflag : o.effect = .flag) (hc : c ≠ hyphen) (hnew : given.lookup o.long = none)
    (rest : List Bytes) :
    l.read (.settled given) ([hyphen, c] :: rest) =
      l.read (.settled (given ++ [(o.long, [])])) rest := by
  have htake : (Progress.settled given).take o none = .ok (.settled (given ++ [(o.long, [])])) :=
    take_settled hflag hnew
  have hread : l.readOptions (.settled given) [hyphen, c] =
      .ok (.read (.settled (given ++ [(o.long, [])]))) := by
    have hshort : l.readOptions (.settled given) [hyphen, c] =
        l.readShort (.settled given) [c] := by
      unfold readOptions
      split
      · next heq =>
        cases heq
        exact absurd rfl hc
      · next heq =>
        cases heq
        rfl
      · next hother => exact absurd rfl (hother [c])
    rw [hshort, readShort]
    simp [readCluster, ho, hflag, htake, Except.map]
  rw [read]
  simp only [hread]
  simp [Progress.settled, Progress.start, hsub, hc]

/-! ### Arguments -/

/-- The progress in which an argument of many words has taken some. -/
def taking (p : Progress) (a : Positional) (words : List Bytes) : Progress :=
  { p with
    pending := some ⟨a.name, a.kind, true, words⟩
    inMany := true
    isTrailing := true }

/-- Once an argument takes everything, no word is looked at. -/
lemma read_taking {p : Progress}
    (hnext : ∀ earlier, l.nextPositional? (taking p a earlier) = some a) (hreach : a.reach ≠ .one)
    (earlier words : List Bytes) :
    l.read (taking p a earlier) words = .ok (.words (taking p a (earlier ++ words))) := by
  induction words generalizing earlier with
  | nil => rw [read, List.append_nil]
  | cons word words ih =>
    have hword : l.readPositional (taking p a earlier) word =
        .ok (taking p a (earlier ++ [word])) := by
      unfold readPositional
      rw [hnext earlier]
      simp [taking, hreach]
    rw [read]
    simp only [hword, ih]
    simp [taking]

/-- An argument that takes everything takes everything, from its first word on. -/
lemma read_everything (hsub : l.subcommands = []) (hargs : l.positionals = [a])
    (hreach : a.reach = .everything) (hword : word.head? ≠ some hyphen) (words : List Bytes) :
    l.read (.settled given) (word :: words) =
      .ok (.words (taking (.settled given) a (word :: words))) := by
  have hplain : ∀ p, l.readOptions p word = .ok .plain := by
    intro p
    cases word with
    | nil => rfl
    | cons b word =>
      have hb : b ≠ hyphen := by simpa using hword
      unfold readOptions
      simp [hb]
  have hdashes : word ≠ [hyphen, hyphen] := by
    rintro rfl
    exact hword rfl
  have hfirst : l.readPositional (.settled given) word =
      .ok (taking (.settled given) a [word]) := by
    unfold readPositional nextPositional?
    simp [Progress.settled, Progress.start, hargs, hreach, taking, Progress.settle]
  have hnext : ∀ earlier, l.nextPositional? (taking (.settled given) a earlier) = some a := by
    intro earlier
    simp [nextPositional?, hargs, hreach, taking, Progress.settled, Progress.start]
  have hrest := read_taking hnext (by simp [hreach]) [word] words
  rw [List.singleton_append] at hrest
  rw [← hrest, read]
  simp only [hplain, hfirst]
  simp [Progress.settled, Progress.start, hsub, hdashes]

/-- Values that suit are noted, if they are not given twice. -/
lemma settle_pending {p : Progress} {w : Pending} (hw : p.pending = some w) (hne : w.values ≠ [])
    (hkind : ∀ value ∈ w.values, w.kind.refusal? value = none)
    (hnew : w.isMany ∨ p.given.lookup w.name = none) :
    p.settle = .ok { p with pending := none, given := p.given ++ [(w.name, w.values)] } := by
  have hfind : w.values.findSome? w.kind.refusal? = none := List.findSome?_eq_none_iff.2 hkind
  have honce : (!w.isMany && (p.given.lookup w.name).isSome) = false := by
    rcases hnew with hmany | hnone
    · simp [hmany]
    · simp [hnone]
  simp [Progress.settle, Progress.record, hw, hne, honce, hfind]

/-- **A level is complete** when what is pending suits, and everything that has to be given is. -/
lemma complete_pending {p : Progress} {w : Pending} (hw : p.pending = some w) (hne : w.values ≠ [])
    (hkind : ∀ value ∈ w.values, w.kind.refusal? value = none)
    (hnew : w.isMany ∨ p.given.lookup w.name = none)
    (hoptions : ∀ o ∈ l.options, o.isRequired →
      ((p.given ++ [(w.name, w.values)]).lookup o.long).isSome)
    (hargs : ∀ a ∈ l.positionals, a.isRequired →
      ((p.given ++ [(w.name, w.values)]).lookup a.name).isSome) :
    l.complete p = .ok (p.given ++ [(w.name, w.values)]) := by
  have hsettle := settle_pending hw hne hkind hnew
  have hall : (l.options.all fun o => !o.isRequired ||
      ((p.given ++ [(w.name, w.values)]).lookup o.long).isSome) = true := by
    rw [List.all_eq_true]
    intro o ho
    cases hrequired : o.isRequired with
    | false => rfl
    | true => simpa using hoptions o ho hrequired
  have hall' : (l.positionals.all fun a => !a.isRequired ||
      ((p.given ++ [(w.name, w.values)]).lookup a.name).isSome) = true := by
    rw [List.all_eq_true]
    intro a ha
    cases hrequired : a.isRequired with
    | false => rfl
    | true => simpa using hargs a ha hrequired
  unfold complete
  rw [hsettle]
  simp only [hall, hall']
  rfl

/-- A level whose last argument has taken words is complete when they suit the argument and all that
has to be given is. -/
lemma complete_taking (hwords : words ≠ []) (hkind : ∀ word ∈ words, a.kind.refusal? word = none)
    (hargs : l.positionals = [a])
    (hgiven : ∀ o ∈ l.options, o.isRequired → ((given ++ [(a.name, words)]).lookup o.long).isSome) :
    l.complete (taking (.settled given) a words) = .ok (given ++ [(a.name, words)]) := by
  refine complete_pending (p := taking (.settled given) a words) rfl hwords hkind (.inl rfl) hgiven
    fun b hb _ => ?_
  rw [hargs, List.mem_singleton] at hb
  rw [hb, List.lookup_append]
  simp

end Level

/-! ### What was given -/

namespace Given

variable {g g' : Given} {name value : Bytes}

/-- What was given is given in order. -/
lemma values_append : (g ++ g').values name = g.values name ++ g'.values name := by
  simp [values]

/-- An option or argument that was not given has no values. -/
lemma values_of_not_mem (h : name ∉ g.map (·.1)) : g.values name = [] := by
  have hfilter : (g.filter fun e => e.1 == name) = [] := by
    rw [List.filter_eq_nil_iff]
    intro e he heq
    exact h (List.mem_map.2 ⟨e, he, by simpa using heq⟩)
  rw [values, hfilter]
  rfl

/-- What was given once has the values that it was given with. -/
lemma values_of_mem {all : List Bytes} (hnodup : (g.map (·.1)).Nodup) (h : (name, all) ∈ g) :
    g.values name = all := by
  induction g with
  | nil => cases h
  | cons e g ih =>
    obtain ⟨hmem, hnodup⟩ := List.nodup_cons.1 hnodup
    have hcons : values (e :: g) name = values [e] name ++ values g name :=
      values_append (g := [e])
    rw [hcons]
    rcases List.mem_cons.1 h with rfl | h
    · rw [values_of_not_mem hmem]
      simp [values]
    · have hne : name ≠ e.1 := by
        rintro rfl
        exact hmem (List.mem_map.2 ⟨_, h, rfl⟩)
      rw [ih hnodup h, values_of_not_mem (by simpa using hne)]
      rfl

/-- A value that was given is in one of the entries. -/
lemma mem_values (h : value ∈ g.values name) : ∃ e ∈ g, e.1 = name ∧ value ∈ e.2 := by
  obtain ⟨e, he, hvalue⟩ := List.mem_flatMap.1 h
  obtain ⟨hmem, hname⟩ := List.mem_filter.1 he
  exact ⟨e, hmem, by simpa using hname, hvalue⟩

/-- What was given is what has an entry. -/
lemma has_iff : g.has name ↔ name ∈ g.map (·.1) := by
  rw [has, List.lookup_isSome_iff, List.mem_map]
  constructor
  · rintro ⟨e, he, heq⟩
    exact ⟨e, he, (beq_iff_eq.1 heq).symm⟩
  · rintro ⟨e, he, heq⟩
    exact ⟨e, he, beq_iff_eq.2 heq.symm⟩

end Given

/-! ### Grammars -/

/-- A line that starts with a subcommand is read as the subcommand's level reads the rest. -/
lemma Grammar.parse_subcommand {g : Grammar} {name : Bytes} {level : Level} {rest : List Bytes}
    {q : Progress} {inner : Given} (hlookup : g.subcommands.lookup name = some level)
    (hname : name ≠ helpName) (hoptions : ∀ o ∈ g.options, o.isRequired = false)
    (hread : level.read .start rest = .ok (.words q)) (hcomplete : level.complete q = .ok inner) :
    g.parse (name :: rest) = .ok ⟨[], name, inner⟩ := by
  have hmem : name ∈ g.top.subcommands := by
    obtain ⟨before, after, heq, -⟩ := List.lookup_eq_some_iff.1 hlookup
    have hentry : (name, level) ∈ g.subcommands := by simp [heq]
    exact List.mem_cons_of_mem _ (List.mem_map.2 ⟨(name, level), hentry, rfl⟩)
  have htop : g.top.read .start (name :: rest) = .ok (.subcommand .start name rest) := by
    rw [Level.read]
    simp [Progress.start, hmem]
  have houter : g.top.complete .start = .ok [] := by
    have hall : (g.top.options.all fun o => !o.isRequired || (Given.has [] o.long)) = true := by
      rw [List.all_eq_true]
      intro o ho
      rw [hoptions o ho]
      rfl
    unfold Level.complete
    simp only [Progress.settle, Progress.start]
    rw [if_pos]
    rw [Bool.and_eq_true]
    exact ⟨hall, rfl⟩
  unfold parse
  rw [htop]
  simp only [if_neg hname, hlookup, hread, hcomplete, houter]

end ContainerEntry.CommandLine
