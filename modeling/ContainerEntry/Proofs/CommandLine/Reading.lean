import Mathlib
import ContainerEntry.CommandLine.Grammar
import ContainerEntry.Proofs.CommandLine.Writing

/-!
# What a command line gives

A command line is read word by word, and most words only move values about: an option's value waits
to be checked while other words are read.  The lemmas of the first section say all that a word can
do, and what holds of every reading follows from them by induction on the words.

* **Every value has been checked** (`accepts_of_read`): what a level gives for an option or argument
  is of the kind that the grammar asks for.
* **What stands behind `--` is what was typed** (`values_of_read_dashes`): an argument that is
  reserved for it gets exactly the words behind the first `--`, whatever stands in front and
  whatever they are.
-/

namespace ContainerEntry.CommandLine

open Bytes

/-! ### What a word can do -/

/-- Values are noted once they have been checked. -/
lemma Progress.record_cases {p q : Progress} {name : Bytes} {kind : Kind} {isMany : Bool}
    {values : List Bytes} (h : p.record name kind isMany values = .ok q) :
    (∀ value ∈ values, kind.refusal? value = none) ∧
      q = { p with given := p.given ++ [(name, values)] } := by
  unfold record at h
  split at h
  · cases h
  · split at h
    · cases h
    · split at h
      · cases h
      · next hfind => exact ⟨List.findSome?_eq_none_iff.1 hfind, (Except.ok.inj h).symm⟩

/-- What is pending is noted once it has been checked. -/
lemma Progress.settle_cases {p q : Progress} (h : p.settle = .ok q) :
    (p.pending = none ∧ q = p) ∨
      ∃ w, p.pending = some w ∧ (∀ value ∈ w.values, w.kind.refusal? value = none) ∧
        q = { p with pending := none, given := p.given ++ [(w.name, w.values)] } := by
  unfold settle at h
  cases hpending : p.pending with
  | none =>
    rw [hpending] at h
    exact .inl ⟨rfl, (Except.ok.inj h).symm⟩
  | some w =>
    rw [hpending] at h
    obtain ⟨hvalues, hq⟩ := record_cases h
    exact .inr ⟨w, rfl, hvalues, hq⟩

/-- Whether a level has an option or argument of a name whose values are of a kind. -/
def Level.Declares (l : Level) (name : Bytes) (kind : Kind) : Prop :=
  (∃ o ∈ l.options, o.long = name ∧ o.effect = .value kind) ∨
    ∃ a ∈ l.positionals, a.name = name ∧ a.kind = kind

namespace Level

variable {l : Level} {p q : Progress} {o : Switch} {word : Bytes} {attached : Option Bytes}

/-- An option is noted, or waits for its value, once what was pending has been noted. -/
lemma take_cases (h : p.take o attached = .ok q) :
    ∃ settled, p.settle = .ok settled ∧ q.isTrailing = settled.isTrailing ∧
      ((o.effect = .flag ∧ q.given = settled.given ++ [(o.long, [])] ∧
          q.pending = settled.pending) ∨
        ∃ kind, o.effect = .value kind ∧
          ((∃ value, kind.refusal? value = none ∧
              q.given = settled.given ++ [(o.long, [value])] ∧ q.pending = settled.pending) ∨
            (q.given = settled.given ∧ q.pending = some ⟨o.long, kind, false, []⟩))) := by
  unfold Progress.take at h
  cases hsettle : p.settle with
  | error refusal =>
    rw [hsettle] at h
    cases h
  | ok settled =>
    rw [hsettle] at h
    simp only [bind, Except.bind] at h
    refine ⟨settled, rfl, ?_⟩
    cases heffect : o.effect with
    | help => simp [heffect] at h
    | version => simp [heffect] at h
    | flag =>
      simp only [heffect] at h
      split at h
      · cases h
      · cases h
        exact ⟨rfl, .inl ⟨rfl, rfl, rfl⟩⟩
    | value kind =>
      cases attached with
      | none =>
        simp only [heffect] at h
        cases h
        exact ⟨rfl, .inr ⟨kind, rfl, .inr ⟨rfl, rfl⟩⟩⟩
      | some value =>
        simp only [heffect] at h
        obtain ⟨hvalue, rfl⟩ := Progress.record_cases h
        have hchecked := hvalue value (List.mem_singleton_self value)
        exact ⟨rfl, .inr ⟨kind, rfl, .inl ⟨value, hchecked, rfl, rfl⟩⟩⟩

/-- An option adds nothing but itself: values that it takes, or that it waits for. -/
lemma entries_of_take (h : p.take o attached = .ok q) :
    ∃ settled, p.settle = .ok settled ∧
      (∀ e ∈ q.given, e ∈ settled.given ∨ e.1 = o.long ∧
        ∀ value ∈ e.2, ∃ kind, o.effect = .value kind ∧ kind.refusal? value = none) ∧
      ∀ w ∈ q.pending, w ∈ settled.pending ∨
        w.name = o.long ∧ w.values = [] ∧ o.effect = .value w.kind := by
  obtain ⟨settled, hsettle, -, hcases⟩ := take_cases h
  refine ⟨settled, hsettle, ?_⟩
  rcases hcases with ⟨-, hgiven, hpending⟩ |
    ⟨kind, heffect, ⟨value, hvalue, hgiven, hpending⟩ | ⟨hgiven, hpending⟩⟩
  · rw [hgiven, hpending]
    refine ⟨fun e he => ?_, fun w hw => .inl hw⟩
    rcases List.mem_append.1 he with he | he
    · exact .inl he
    · obtain rfl := List.mem_singleton.1 he
      exact .inr ⟨rfl, by simp⟩
  · rw [hgiven, hpending]
    refine ⟨fun e he => ?_, fun w hw => .inl hw⟩
    rcases List.mem_append.1 he with he | he
    · exact .inl he
    · obtain rfl := List.mem_singleton.1 he
      refine .inr ⟨rfl, fun v hv => ⟨kind, heffect, ?_⟩⟩
      rwa [List.mem_singleton.1 hv]
  · rw [hgiven, hpending]
    refine ⟨fun e he => .inl he, fun w hw => ?_⟩
    cases hw
    exact .inr ⟨rfl, rfl, heffect⟩

/-- A word that is read as options takes some of the level's, one after another. -/
inductive Takes (l : Level) : Progress → Progress → Prop where
  /-- There are no more. -/
  | done {p : Progress} : Takes l p p
  /-- One is taken, and then others. -/
  | take {p q r : Progress} {o : Switch} {attached : Option Bytes} (ho : o ∈ l.options)
    (htake : p.take o attached = .ok q) (next : Takes l q r) : Takes l p r

/-- A cluster takes options. -/
lemma takes_of_readCluster {text : Bytes} (h : l.readCluster p text = .ok q) : l.Takes p q := by
  induction text generalizing p with
  | nil =>
    cases h
    exact .done
  | cons name rest ih =>
    unfold readCluster at h
    split at h
    · cases h
    · next o ho =>
      have hmem : o ∈ l.options := List.mem_of_find?_eq_some ho
      split at h
      · exact .take hmem h .done
      · split at h
        · cases h
        · next htake => exact .take hmem htake (ih h)

/-- Reading that came to an end took an option. -/
lemma eq_ok_of_map_read {result : Except Refusal Progress}
    (h : result.map Reading.read = .ok (.read q)) : result = .ok q := by
  obtain ⟨p, hp, heq⟩ := exists_of_map_eq_ok h
  cases heq
  exact hp

/-- A word that is read as options takes options. -/
lemma takes_of_readOptions (h : l.readOptions p word = .ok (.read q)) : l.Takes p q := by
  unfold readOptions at h
  split at h
  · unfold readLong at h
    simp only at h
    split at h
    · split at h <;> cases h
    · next o ho =>
      have hmem : o ∈ l.options := List.mem_of_find?_eq_some ho
      split at h
      · exact .take hmem (eq_ok_of_map_read h) .done
      · exact .take hmem (eq_ok_of_map_read h) .done
      · cases h
  · unfold readShort at h
    split at h
    · cases h
    · split at h
      · cases h
      · exact takes_of_readCluster (eq_ok_of_map_read h)
  · cases h

/-- What taking options keeps is kept by every word that is read as options. -/
lemma Takes.keeps {P : Progress → Prop} (h : l.Takes p q) (hp : P p)
    (hkeeps : ∀ p q o attached, o ∈ l.options → P p → p.take o attached = .ok q → P q) : P q := by
  induction h with
  | done => exact hp
  | take ho htake _ ih => exact ih (hkeeps _ _ _ _ ho hp htake)

/-- Noting what is pending makes no word an argument. -/
lemma settle_isTrailing (h : p.settle = .ok q) : q.isTrailing = p.isTrailing := by
  rcases Progress.settle_cases h with ⟨-, rfl⟩ | ⟨w, -, -, rfl⟩ <;> rfl

/-- A word that is read as an argument joins those that the argument has, or comes first once what
was pending has been noted. -/
lemma readPositional_cases (h : l.readPositional p word = .ok q) :
    ∃ a, l.nextPositional? p = some a ∧ (a.reach = .afterDashes → p.isTrailing) ∧
      ∃ settled earlier,
        ((∃ w, p.pending = some w ∧ w.name = a.name ∧ settled = p ∧ earlier = w.values) ∨
          (p.settle = .ok settled ∧ earlier = [])) ∧
        q = { settled with
          pending := some ⟨a.name, a.kind, a.reach != .one, earlier ++ [word]⟩
          inMany := a.reach != .one
          isTrailing := settled.isTrailing || a.reach = .everything
          position := if a.reach != .one then settled.position else settled.position + 1 } := by
  unfold readPositional at h
  split at h
  · cases h
  · next a ha =>
    refine ⟨a, ha, ?_⟩
    split at h
    · cases h
    · next hreserved =>
      have htrailing : a.reach = .afterDashes → p.isTrailing := by
        intro hreach
        simpa [hreach] using hreserved
      refine ⟨htrailing, ?_⟩
      cases hjoins : a.reach != .one && p.pending.map (·.name) == some a.name with
      | true =>
        simp only [hjoins, if_true] at h
        simp only [Bool.and_eq_true, beq_iff_eq, Option.map_eq_some_iff] at hjoins
        obtain ⟨-, w, hw, hname⟩ := hjoins
        cases h
        refine ⟨p, w.values, .inl ⟨w, hw, hname, rfl, rfl⟩, ?_⟩
        simp [hw]
      | false =>
        simp only [hjoins, Bool.false_eq_true, if_false] at h
        cases hsettle : p.settle with
        | error refusal =>
          rw [hsettle] at h
          cases h
        | ok settled =>
          rw [hsettle] at h
          cases h
          exact ⟨settled, [], .inr ⟨rfl, rfl⟩, rfl⟩

/-- A word is read as options, as an option's value or as an argument. -/
inductive Step (l : Level) : Progress → Bytes → Progress → Prop where
  /-- The word is options. -/
  | options {p q : Progress} {word : Bytes} (htrailing : p.isTrailing = false)
    (h : l.Takes p q) : Step l p word q
  /-- The word is a value. -/
  | value {p : Progress} {word : Bytes} (htrailing : p.isTrailing = false) :
    Step l p word (p.feed word)
  /-- The word is an argument. -/
  | argument {p q : Progress} {word : Bytes} (h : l.readPositional p word = .ok q) :
    Step l p word q

/-- The first word is a step, or starts a subcommand, or makes all others arguments. -/
lemma read_cons_cases {rest : List Bytes} {ending : Ending}
    (h : l.read p (word :: rest) = .ok ending) :
    (p.isTrailing = false ∧ word ∈ l.subcommands ∧ ending = .subcommand p word rest) ∨
      (p.isTrailing = false ∧ word = [hyphen, hyphen] ∧
        l.read { p with isTrailing := true } rest = .ok ending) ∨
      ∃ q, (p.isTrailing = false → word ≠ [hyphen, hyphen]) ∧ l.Step p word q ∧
        l.read q rest = .ok ending := by
  rw [read] at h
  cases htrailing : p.isTrailing with
  | true =>
    simp only [htrailing, if_true] at h
    cases hread : l.readPositional p word with
    | error refusal =>
      rw [hread] at h
      cases h
    | ok q =>
      rw [hread] at h
      exact .inr (.inr ⟨q, by simp, .argument hread, h⟩)
  | false =>
    simp only [htrailing, Bool.false_eq_true, if_false] at h
    split at h
    · next hsubcommand =>
      have hmem : word ∈ l.subcommands := by
        simp only [Bool.and_eq_true, List.contains_iff_mem] at hsubcommand
        exact hsubcommand.2
      exact .inl ⟨rfl, hmem, (Except.ok.inj h).symm⟩
    · split at h
      · next hdashes => exact .inr (.inl ⟨rfl, hdashes, h⟩)
      · next hdashes =>
        refine .inr (.inr ?_)
        split at h
        · cases h
        · next q hoptions =>
          exact ⟨q, fun _ => hdashes, .options htrailing (takes_of_readOptions hoptions), h⟩
        · split at h
          · exact ⟨_, fun _ => hdashes, .value htrailing, h⟩
          · split at h
            · cases h
            · next q hread => exact ⟨q, fun _ => hdashes, .argument hread, h⟩

/-- The argument whose turn it is is one of the level's. -/
lemma mem_of_nextPositional? {a : Positional} (h : l.nextPositional? p = some a) :
    a ∈ l.positionals := by
  unfold nextPositional? at h
  simp only at h
  split at h
  · exact List.mem_of_getLast? h
  · exact List.mem_of_getElem? h

/-- Only an argument that takes everything makes all words arguments. -/
lemma Step.isTrailing_eq (h : l.Step p word q) (hl : ∀ a ∈ l.positionals, a.reach ≠ .everything) :
    q.isTrailing = p.isTrailing := by
  cases h with
  | options _ h =>
    refine h.keeps (P := fun r => r.isTrailing = p.isTrailing) rfl ?_
    intro r r' o attached _ hr htake
    obtain ⟨settled, hsettle, htrailing, -⟩ := take_cases htake
    rw [htrailing, settle_isTrailing hsettle, hr]
  | value _ => rfl
  | argument h =>
    obtain ⟨a, ha, -, settled, earlier, hfrom, rfl⟩ := readPositional_cases h
    have hreach := hl a (mem_of_nextPositional? ha)
    rcases hfrom with ⟨-, -, -, rfl, -⟩ | ⟨hsettle, -⟩
    · simp [hreach]
    · simp [hreach, settle_isTrailing hsettle]

end Level

/-! ### Checked values -/

/-- Every value that has been noted is of a kind that the level declares for it, and what is pending
waits to be checked for such a kind. -/
structure Progress.IsChecked (l : Level) (p : Progress) : Prop where
  /-- What was noted was checked. -/
  given : ∀ e ∈ p.given, ∀ value ∈ e.2, ∃ kind, l.Declares e.1 kind ∧ kind.refusal? value = none
  /-- What is pending will be. -/
  pending : ∀ w ∈ p.pending, l.Declares w.name w.kind

namespace Progress.IsChecked

variable {l : Level} {p q : Progress} {o : Switch} {word : Bytes} {attached : Option Bytes}

/-- Noting what is pending keeps everything checked. -/
lemma settle (hp : p.IsChecked l) (h : p.settle = .ok q) : q.IsChecked l := by
  rcases Progress.settle_cases h with ⟨-, rfl⟩ | ⟨w, hw, hvalues, rfl⟩
  · exact hp
  · refine ⟨fun e he value hvalue => ?_, by simp⟩
    rcases List.mem_append.1 he with he | he
    · exact hp.given e he value hvalue
    · obtain rfl := List.mem_singleton.1 he
      exact ⟨w.kind, hp.pending w hw, hvalues value hvalue⟩

/-- Taking an option keeps everything checked. -/
lemma take (hp : p.IsChecked l) (ho : o ∈ l.options) (h : p.take o attached = .ok q) :
    q.IsChecked l := by
  obtain ⟨settled, hsettle, hgiven, hpending⟩ := Level.entries_of_take h
  have hsettled := hp.settle hsettle
  refine ⟨fun e he value hvalue => ?_, fun w hw => ?_⟩
  · rcases hgiven e he with he | ⟨hname, hvalues⟩
    · exact hsettled.given e he value hvalue
    · obtain ⟨kind, heffect, hchecked⟩ := hvalues value hvalue
      exact ⟨kind, .inl ⟨o, ho, hname.symm, heffect⟩, hchecked⟩
  · rcases hpending w hw with hw | ⟨hname, -, heffect⟩
    · exact hsettled.pending w hw
    · exact .inl ⟨o, ho, hname.symm, heffect⟩

/-- Every word keeps everything checked. -/
lemma step (hp : p.IsChecked l) (h : l.Step p word q) : q.IsChecked l := by
  cases h with
  | options _ h => exact h.keeps hp fun _ _ _ _ ho hp htake => hp.take ho htake
  | value _ =>
    refine ⟨hp.given, fun w hw => ?_⟩
    obtain ⟨w', hw', rfl⟩ := Option.map_eq_some_iff.1 hw
    exact hp.pending w' hw'
  | argument h =>
    obtain ⟨a, ha, -, settled, earlier, hfrom, rfl⟩ := Level.readPositional_cases h
    have hsettled : settled.IsChecked l := by
      rcases hfrom with ⟨-, -, -, rfl, -⟩ | ⟨hsettle, -⟩
      · exact hp
      · exact hp.settle hsettle
    refine ⟨hsettled.given, fun w hw => ?_⟩
    cases hw
    exact .inr ⟨a, Level.mem_of_nextPositional? ha, rfl, rfl⟩

/-- Every line keeps everything checked. -/
lemma read {words : List Bytes} (hp : p.IsChecked l) (h : l.read p words = .ok (.words q)) :
    q.IsChecked l := by
  induction words generalizing p with
  | nil =>
    rw [Level.read] at h
    cases h
    exact hp
  | cons word words ih =>
    rcases Level.read_cons_cases h with ⟨-, -, hending⟩ | ⟨-, -, hread⟩ | ⟨p', -, hstep, hread⟩
    · cases hending
    · have hdashes : { p with isTrailing := true }.IsChecked l := ⟨hp.given, hp.pending⟩
      exact ih hdashes hread
    · exact ih (hp.step hstep) hread

end Progress.IsChecked

/-- What a complete level gives was noted once what was pending had been. -/
lemma Level.settle_of_complete {l : Level} {q : Progress} {given : Given}
    (h : l.complete q = .ok given) : ∃ settled, q.settle = .ok settled ∧ settled.given = given := by
  unfold complete at h
  split at h
  · cases h
  · next settled hsettle =>
    simp only at h
    split at h
    · exact ⟨settled, hsettle, Except.ok.inj h⟩
    · cases h

/-- **Every value has been checked**: it is of a kind that the level declares for it. -/
lemma Level.accepts_of_read {l : Level} {words : List Bytes} {q : Progress} {given : Given}
    (hread : l.read .start words = .ok (.words q)) (hcomplete : l.complete q = .ok given) :
    ∀ e ∈ given, ∀ value ∈ e.2, ∃ kind, l.Declares e.1 kind ∧ kind.refusal? value = none := by
  have hstart : Progress.start.IsChecked l := ⟨by simp [Progress.start], by simp [Progress.start]⟩
  obtain ⟨settled, hsettle, rfl⟩ := Level.settle_of_complete hcomplete
  exact ((hstart.read hread).settle hsettle).given

/-! ### Words behind the dashes -/

/-- Nothing has been given for a name. -/
structure Progress.Lacks (name : Bytes) (p : Progress) : Prop where
  /-- Nothing was noted for it. -/
  given : name ∉ p.given.map (·.1)
  /-- Nothing is pending for it. -/
  pending : ∀ w ∈ p.pending, w.name ≠ name

/-- An argument that is reserved for the words behind `--`. -/
structure Level.Reserves (l : Level) (a : Positional) : Prop where
  /-- It is the last one. -/
  last : l.positionals.getLast? = some a
  /-- It is reserved. -/
  reach : a.reach = .afterDashes
  /-- No option has its name. -/
  options : ∀ o ∈ l.options, o.long ≠ a.name
  /-- No other argument has its name. -/
  names : ∀ b ∈ l.positionals, b.name = a.name → b.reach = .afterDashes
  /-- No argument takes the dashes for a word. -/
  others : ∀ b ∈ l.positionals, b.reach ≠ .everything
  /-- There are no subcommands. -/
  subcommands : l.subcommands = []

namespace Progress.Lacks

variable {l : Level} {p q : Progress} {o : Switch} {name word : Bytes} {attached : Option Bytes}

/-- Noting what is pending notes nothing for the name. -/
lemma settle (hp : p.Lacks name) (h : p.settle = .ok q) : q.Lacks name := by
  rcases Progress.settle_cases h with ⟨-, rfl⟩ | ⟨w, hw, -, rfl⟩
  · exact hp
  · have hname := hp.pending w hw
    refine ⟨?_, by simp⟩
    simpa using ⟨by simpa using hp.given, hname.symm⟩

/-- Taking an option of another name gives nothing for the name. -/
lemma take (hp : p.Lacks name) (ho : o.long ≠ name) (h : p.take o attached = .ok q) :
    q.Lacks name := by
  obtain ⟨settled, hsettle, hgiven, hpending⟩ := Level.entries_of_take h
  have hsettled := hp.settle hsettle
  refine ⟨fun hmem => ?_, fun w hw => ?_⟩
  · obtain ⟨e, he, heq⟩ := List.mem_map.1 hmem
    rcases hgiven e he with he | ⟨hname, -⟩
    · exact hsettled.given (List.mem_map.2 ⟨e, he, heq⟩)
    · exact ho (hname.symm.trans heq)
  · rcases hpending w hw with hw | ⟨hname, -, -⟩
    · exact hsettled.pending w hw
    · exact hname ▸ ho

/-- In front of the dashes nothing is given for the reserved argument. -/
lemma step {a : Positional} (hl : l.Reserves a) (hp : p.Lacks a.name)
    (hfront : p.isTrailing = false) (h : l.Step p word q) : q.Lacks a.name := by
  cases h with
  | options _ h =>
    exact h.keeps hp fun _ _ o _ ho hp htake => hp.take (hl.options o ho) htake
  | value _ =>
    refine ⟨hp.given, fun w hw => ?_⟩
    obtain ⟨w', hw', rfl⟩ := Option.map_eq_some_iff.1 hw
    exact hp.pending w' hw'
  | argument h =>
    obtain ⟨b, hb, hreserved, settled, earlier, hfrom, rfl⟩ := Level.readPositional_cases h
    have hsettled : settled.Lacks a.name := by
      rcases hfrom with ⟨-, -, -, rfl, -⟩ | ⟨hsettle, -⟩
      · exact hp
      · exact hp.settle hsettle
    refine ⟨hsettled.given, fun w hw => ?_⟩
    cases hw
    intro heq
    have htrailing := hreserved (hl.names b (Level.mem_of_nextPositional? hb) heq)
    rw [hfront] at htrailing
    cases htrailing

end Progress.Lacks

namespace Level

variable {l : Level} {p q : Progress} {words front : List Bytes} {ending : Ending}

/-- A line with dashes is read up to a subcommand in front of them, or up to the dashes. -/
lemma read_front {P : Progress → Prop}
    (hkeeps : ∀ p word q, P p → p.isTrailing = false → l.Step p word q → P q)
    (hothers : ∀ a ∈ l.positionals, a.reach ≠ .everything)
    (hsub : [hyphen, hyphen] ∉ l.subcommands) (hfront : [hyphen, hyphen] ∉ front) (hp : P p)
    (htrailing : p.isTrailing = false)
    (h : l.read p (front ++ [hyphen, hyphen] :: words) = .ok ending) :
    (∃ q name rest, ending = .subcommand q name (rest ++ [hyphen, hyphen] :: words) ∧
        [hyphen, hyphen] ∉ rest) ∨
      ∃ q, P q ∧ l.read { q with isTrailing := true } words = .ok ending := by
  induction front generalizing p with
  | nil =>
    rcases read_cons_cases h with ⟨-, hmem, -⟩ | ⟨-, -, hread⟩ | ⟨q, hdashes, -, -⟩
    · exact absurd hmem hsub
    · exact .inr ⟨p, hp, hread⟩
    · exact absurd rfl (hdashes htrailing)
  | cons word front ih =>
    obtain ⟨hword, hfront⟩ := not_or.1 (mt List.mem_cons.2 hfront)
    rcases read_cons_cases h with ⟨-, -, hending⟩ | ⟨-, hdashes, -⟩ | ⟨q, -, hstep, hread⟩
    · exact .inl ⟨p, word, front, hending, hfront⟩
    · exact absurd hdashes.symm hword
    · have hq := hkeeps p word q hp htrailing hstep
      exact ih hfront hq ((hstep.isTrailing_eq hothers).trans htrailing) hread

/-- Behind the dashes there are no subcommands. -/
lemma words_of_read_trailing (htrailing : p.isTrailing) (h : l.read p words = .ok ending) :
    ∃ q, ending = .words q := by
  induction words generalizing p with
  | nil =>
    rw [read] at h
    cases h
    exact ⟨p, rfl⟩
  | cons word words ih =>
    rcases read_cons_cases h with ⟨hnot, -, -⟩ | ⟨hnot, -, -⟩ | ⟨q, -, hstep, hread⟩
    · exact absurd htrailing (by simp [hnot])
    · exact absurd htrailing (by simp [hnot])
    · refine ih ?_ hread
      cases hstep with
      | options hnot _ => exact absurd htrailing (by simp [hnot])
      | value hnot => exact absurd htrailing (by simp [hnot])
      | argument h =>
        obtain ⟨a, -, -, settled, earlier, hfrom, rfl⟩ := readPositional_cases h
        have hsettled : settled.isTrailing := by
          rcases hfrom with ⟨-, -, -, rfl, -⟩ | ⟨hsettle, -⟩
          · exact htrailing
          · exact (settle_isTrailing hsettle).trans htrailing
        simp [hsettled]

/-- Behind the dashes it is always the reserved argument's turn. -/
lemma Reserves.next {a : Positional} (hl : l.Reserves a) (htrailing : p.isTrailing) :
    l.nextPositional? p = some a := by
  have hreserved : (l.positionals.any fun b => b.reach == .afterDashes) = true :=
    List.any_eq_true.2 ⟨a, List.mem_of_getLast? hl.last, by simp [hl.reach]⟩
  simp [nextPositional?, htrailing, hreserved, hl.last]

/-- **The reserved argument gets the words behind the dashes**, exactly as they are. -/
lemma values_of_read_dashes {a : Positional} {given : Given} (hl : l.Reserves a)
    (hfront : [hyphen, hyphen] ∉ front)
    (hread : l.read .start (front ++ [hyphen, hyphen] :: words) = .ok (.words q))
    (hcomplete : l.complete q = .ok given) : given.values a.name = words := by
  have hstart : Progress.start.Lacks a.name := ⟨by simp [Progress.start], by simp [Progress.start]⟩
  have hnone : [hyphen, hyphen] ∉ l.subcommands := by simp [hl.subcommands]
  have hkeeps : ∀ p word q, p.Lacks a.name → p.isTrailing = false → l.Step p word q →
      q.Lacks a.name := fun _ _ _ hp htrailing hstep => hp.step hl htrailing hstep
  obtain ⟨settled, hsettle, rfl⟩ := settle_of_complete hcomplete
  rcases read_front hkeeps hl.others hnone hfront hstart rfl hread with
    ⟨q', name, rest, hending, -⟩ | ⟨p, hp, hbehind⟩
  · cases hending
  have hp' : { p with isTrailing := true }.Lacks a.name := ⟨hp.given, hp.pending⟩
  cases words with
  | nil =>
    rw [read] at hbehind
    cases hbehind
    exact Given.values_of_not_mem (hp'.settle hsettle).given
  | cons word words =>
    have hnext : ∀ r : Progress, r.isTrailing → l.nextPositional? r = some a := fun _ => hl.next
    rcases read_cons_cases hbehind with ⟨hnot, -, -⟩ | ⟨hnot, -, -⟩ | ⟨first, -, hstep, hrest⟩
    · cases hnot
    · cases hnot
    cases hstep with
    | options hnot _ => cases hnot
    | value hnot => cases hnot
    | argument hargument =>
      -- The first word behind the dashes settles whatever was pending in front of them; from then
      -- on the reserved argument takes everything.
      obtain ⟨b, hb, -, checked, earlier, hfrom, rfl⟩ := readPositional_cases hargument
      obtain rfl : a = b := Option.some.inj ((hnext _ rfl).symm.trans hb)
      rcases hfrom with ⟨w, hw, hname, -, -⟩ | ⟨hchecked, rfl⟩
      · exact absurd hname (hp.pending w hw)
      have hlacks := hp'.settle hchecked
      have htrailing : checked.isTrailing = true := settle_isTrailing hchecked
      have hmany : a.reach ≠ .one := by simp [hl.reach]
      have hmany' : (a.reach != .one) = true := by simpa using hmany
      have htaking := read_taking (fun earlier => hnext (taking checked a earlier) rfl) hmany
        [word] words
      have hall : l.read (taking checked a [word]) words = .ok (.words q) := by
        simpa [taking, hmany', htrailing] using hrest
      rw [htaking] at hall
      cases hall
      rcases Progress.settle_cases hsettle with ⟨hpending, -⟩ | ⟨w, hw, -, rfl⟩
      · cases hpending
      cases hw
      change Given.values (checked.given ++ [(a.name, word :: words)]) a.name = word :: words
      rw [Given.values_append, Given.values_of_not_mem hlacks.given]
      simp [Given.values]

end Level

/-! ### Programs -/

/-- A command line that is read has a subcommand, which its level reads. -/
lemma Grammar.parse_cases {g : Grammar} {words : List Bytes} {r : Grammar.Reading}
    (h : g.parse words = .ok r) :
    ∃ p rest level q, g.top.read .start words = .ok (.subcommand p r.name rest) ∧
      g.subcommands.lookup r.name = some level ∧ level.read .start rest = .ok (.words q) ∧
      level.complete q = .ok r.inner := by
  unfold parse at h
  split at h
  · cases h
  · next p name rest htop =>
    split at h
    · cases h
    · split at h
      · cases h
      · next level hlookup =>
        simp only at h
        split at h
        · cases h
        · cases h
        · next inner outer hinner houter =>
          cases h
          split at hinner
          · cases hinner
          · cases hinner
          · next q hread => exact ⟨p, rest, level, q, htop, hlookup, hread, hinner⟩
  · split at h <;> cases h

end ContainerEntry.CommandLine
