import Mathlib
import ContainerEntry.Proofs.CommandLine.Reading

/-!
# Words that are arguments

A word that starts with a hyphen and goes on is for the options, and only `--` lifts that rule.  So
which words an argument can be given depends on whether it takes words behind `--`.

* **A word is an argument in front of the dashes** if and only if it does not look like options
  (`readOptions_eq_plain_iff`).  Where the words behind the dashes are reserved for another argument
  it gets no word that looks like options, whatever the line (`not_looksLikeOption_of_read`).
* **Behind the dashes every word is an argument as it is** (`read_dashes_argument`,
  `read_dashes_reserved`).

So the argument that a level asks for can be any word at all (`exists_complete_behind`), unless the
words behind the dashes are reserved (`exists_complete_front`).
-/

namespace ContainerEntry.CommandLine

open Bytes

/-- Whether a word starts with a hyphen and goes on. -/
def looksLikeOption : Bytes → Bool
  | hyphen :: _ :: _ => true
  | _ => false

/-! ### Words in front of the dashes -/

namespace Level

variable {l : Level} {p q : Progress} {o : Switch} {a : Positional} {word : Bytes}
  {rest words : List Bytes}

/-- Where no argument takes everything, none takes a word that looks like options. -/
lemma takesHyphens_eq_false (h : ∀ a ∈ l.positionals, a.reach ≠ .everything) (p : Progress) :
    l.takesHyphens p = false := by
  unfold takesHyphens
  split
  · next a ha => exact decide_eq_false (h a (List.mem_of_getElem? ha))
  · rfl

/-- What options come to is no word. -/
lemma map_read_ne_plain (result : Except Refusal Progress) :
    result.map Reading.read ≠ .ok .plain := by
  intro h
  obtain ⟨p, -, hplain⟩ := exists_of_map_eq_ok h
  cases hplain

/-- **A word is left to the arguments if and only if it does not look like options.** -/
lemma readOptions_eq_plain_iff (h : l.takesHyphens p = false) :
    l.readOptions p word = .ok .plain ↔ looksLikeOption word = false := by
  unfold readOptions
  split
  · next text =>
    refine iff_of_false (fun hplain => ?_) (by rintro ⟨⟩)
    simp only [readLong, h, Bool.false_eq_true, if_false] at hplain
    split at hplain
    · cases hplain
    · split at hplain
      · exact map_read_ne_plain _ hplain
      · exact map_read_ne_plain _ hplain
      · cases hplain
  · next text _ =>
    cases text with
    | nil => exact iff_of_true rfl rfl
    | cons name text =>
      refine iff_of_false (fun hplain => ?_) (by rintro ⟨⟩)
      simp only [readShort, h, List.isEmpty_cons, Bool.false_and, Bool.false_eq_true,
        if_false] at hplain
      exact map_read_ne_plain _ hplain
  · next hother =>
    refine iff_of_true rfl ?_
    unfold looksLikeOption
    split
    · next heq => exact absurd rfl (hother _)
    · rfl

/-- A word that looks like options is options, or the line is refused. -/
lemma takes_of_looksLikeOption {ending : Ending} (hsub : l.subcommands = [])
    (hhyphens : l.takesHyphens p = false) (htrailing : p.isTrailing = false)
    (hlooks : looksLikeOption word) (hdashes : word ≠ [hyphen, hyphen])
    (h : l.read p (word :: rest) = .ok ending) :
    ∃ q, l.Takes p q ∧ l.read q rest = .ok ending := by
  rw [read] at h
  simp only [htrailing, hsub, hdashes, List.contains_nil, Bool.and_false, Bool.false_eq_true,
    if_false] at h
  cases hread : l.readOptions p word with
  | error refusal =>
    rw [hread] at h
    cases h
  | ok reading =>
    rw [hread] at h
    cases reading with
    | read q => exact ⟨q, takes_of_readOptions hread, h⟩
    | plain =>
      rw [(readOptions_eq_plain_iff hhyphens).1 hread] at hlooks
      cases hlooks

end Level

/-- Every value that has been noted or is pending keeps to a rule on names and their values. -/
structure Progress.Keeps (rule : Bytes → Bytes → Prop) (p : Progress) : Prop where
  /-- What was noted keeps to it. -/
  given : ∀ e ∈ p.given, ∀ value ∈ e.2, rule e.1 value
  /-- What is pending keeps to it. -/
  pending : ∀ w ∈ p.pending, ∀ value ∈ w.values, rule w.name value

namespace Progress.Keeps

variable {rule : Bytes → Bytes → Prop} {l : Level} {p q : Progress} {o : Switch} {word : Bytes}
  {attached : Option Bytes}

/-- Noting what is pending keeps to the rule. -/
lemma settle (hp : p.Keeps rule) (h : p.settle = .ok q) : q.Keeps rule := by
  rcases Progress.settle_cases h with ⟨-, rfl⟩ | ⟨w, hw, -, rfl⟩
  · exact hp
  · refine ⟨fun e he value hvalue => ?_, by simp⟩
    rcases List.mem_append.1 he with he | he
    · exact hp.given e he value hvalue
    · obtain rfl := List.mem_singleton.1 he
      exact hp.pending w hw value hvalue

/-- Taking an option that the rule does not bind keeps to it. -/
lemma take (hp : p.Keeps rule) (ho : ∀ value, rule o.long value)
    (h : p.take o attached = .ok q) : q.Keeps rule := by
  obtain ⟨settled, hsettle, hgiven, hpending⟩ := Level.entries_of_take h
  have hsettled := hp.settle hsettle
  refine ⟨fun e he value hvalue => ?_, fun w hw value hvalue => ?_⟩
  · rcases hgiven e he with he | ⟨hname, -⟩
    · exact hsettled.given e he value hvalue
    · exact hname ▸ ho value
  · rcases hpending w hw with hw | ⟨hname, -, -⟩
    · exact hsettled.pending w hw value hvalue
    · exact hname ▸ ho value

/-- A value that suits every name keeps to the rule. -/
lemma feed (hp : p.Keeps rule) (hword : ∀ name, rule name word) : (p.feed word).Keeps rule := by
  refine ⟨hp.given, fun w hw value hvalue => ?_⟩
  obtain ⟨w', hw', rfl⟩ := Option.map_eq_some_iff.1 hw
  rcases List.mem_append.1 hvalue with hvalue | hvalue
  · exact hp.pending w' hw' value hvalue
  · obtain rfl := List.mem_singleton.1 hvalue
    exact hword w'.name

/-- A word that suits the argument whose turn it is keeps to the rule. -/
lemma argument (hp : p.Keeps rule) (hword : ∀ a, l.nextPositional? p = some a → rule a.name word)
    (h : l.readPositional p word = .ok q) : q.Keeps rule := by
  obtain ⟨a, ha, -, settled, earlier, hfrom, rfl⟩ := Level.readPositional_cases h
  have hboth : settled.Keeps rule ∧ ∀ value ∈ earlier, rule a.name value := by
    rcases hfrom with ⟨w, hw, hname, rfl, rfl⟩ | ⟨hsettle, rfl⟩
    · exact ⟨hp, hname ▸ hp.pending w hw⟩
    · exact ⟨hp.settle hsettle, by simp⟩
  refine ⟨hboth.1.given, fun w hw value hvalue => ?_⟩
  cases hw
  rcases List.mem_append.1 hvalue with hvalue | hvalue
  · exact hboth.2 value hvalue
  · obtain rfl := List.mem_singleton.1 hvalue
    exact hword a ha

end Progress.Keeps

namespace Level

variable {l : Level} {p q : Progress} {a : Positional} {rule : Bytes → Bytes → Prop}

/-- **Whatever the line, a rule that binds neither options nor the reserved argument, and that every
word keeps to which does not look like options, is kept to.** -/
lemma keeps_of_read {words : List Bytes} (hl : l.Reserves a)
    (hoptions : ∀ o ∈ l.options, ∀ value, rule o.long value)
    (hreserved : ∀ value, rule a.name value)
    (hplain : ∀ name word, looksLikeOption word = false → rule name word) (hp : p.Keeps rule)
    (h : l.read p words = .ok (.words q)) : q.Keeps rule := by
  induction words generalizing p with
  | nil =>
    rw [read] at h
    cases h
    exact hp
  | cons word words ih =>
    rcases read_cons_cases h with ⟨-, hmem, -⟩ | ⟨-, -, hread⟩ | ⟨p', hdashes, hstep, hread⟩
    · rw [hl.subcommands] at hmem
      cases hmem
    · have hbehind : { p with isTrailing := true }.Keeps rule := ⟨hp.given, hp.pending⟩
      exact ih hbehind hread
    have htakes : ∀ {p'}, l.Takes p p' → p'.Keeps rule := fun h =>
      h.keeps hp fun _ _ o _ ho hp htake => hp.take (hoptions o ho) htake
    by_cases hlooks : p.isTrailing = false ∧ looksLikeOption word
    · obtain ⟨htrailing, hlooks⟩ := hlooks
      have hhyphens := takesHyphens_eq_false hl.others p
      obtain ⟨p'', h', hread'⟩ := takes_of_looksLikeOption hl.subcommands hhyphens htrailing hlooks
        (hdashes htrailing) h
      exact ih (htakes h') hread'
    -- What is left is a word that suits every name, or one behind the dashes.
    have hword : p.isTrailing = false → ∀ name, rule name word := by
      intro htrailing name
      exact hplain name word (by simpa [htrailing] using hlooks)
    refine ih ?_ hread
    cases hstep with
    | options _ h => exact htakes h
    | value htrailing => exact hp.feed (hword htrailing)
    | argument h =>
      refine hp.argument (fun b hb => ?_) h
      cases htrailing : p.isTrailing with
      | false => exact hword htrailing b.name
      | true =>
        obtain rfl := Option.some.inj ((hl.next htrailing).symm.trans hb)
        exact hreserved word

/-- **Where the words behind the dashes are reserved, no other argument is given a word that looks
like options**, whatever the line. -/
lemma not_looksLikeOption_of_read {words : List Bytes} {given : Given} {name : Bytes}
    (hl : l.Reserves a) (hoptions : ∀ o ∈ l.options, o.long ≠ name) (hname : a.name ≠ name)
    (hread : l.read .start words = .ok (.words q)) (hcomplete : l.complete q = .ok given) :
    ∀ value ∈ given.values name, looksLikeOption value = false := by
  have hstart : Progress.start.Keeps fun argument value =>
      argument = name → looksLikeOption value = false :=
    ⟨by simp [Progress.start], by simp [Progress.start]⟩
  have hkeeps : q.Keeps fun argument value => argument = name → looksLikeOption value = false :=
    keeps_of_read hl (fun o ho _ heq => absurd heq (hoptions o ho))
      (fun _ heq => absurd heq hname) (fun _ _ hplain _ => hplain) hstart hread
  obtain ⟨settled, hsettle, rfl⟩ := settle_of_complete hcomplete
  intro value hvalue
  obtain ⟨e, he, heq, hmem⟩ := Given.mem_values hvalue
  exact (hkeeps.settle hsettle).given e he value hmem heq

end Level

/-! ### Lines that give an argument -/

/-- The progress in which an argument of one word has its word. -/
def Progress.holding (p : Progress) (a : Positional) (word : Bytes) : Progress :=
  { p with
    pending := some ⟨a.name, a.kind, false, [word]⟩
    inMany := false
    position := p.position + 1 }

namespace Level

variable {l : Level} {p q : Progress} {a b : Positional} {given : Given} {word : Bytes}

/-- An argument of one word is given it when its turn comes. -/
lemma readPositional_one (hnext : l.nextPositional? p = some a) (hreach : a.reach = .one)
    (hpending : p.pending = none) : l.readPositional p word = .ok (p.holding a word) := by
  have hsettle : p.settle = .ok p := by
    unfold Progress.settle
    rw [hpending]
  unfold readPositional
  simp [hnext, hreach, hsettle, Progress.holding]

/-- The argument whose turn it is gets a word that does not look like options. -/
lemma read_argument (hsub : l.subcommands = [])
    (hothers : ∀ a ∈ l.positionals, a.reach ≠ .everything)
    (hfirst : l.positionals[0]? = some a) (hreach : a.reach = .one)
    (hword : looksLikeOption word = false) (rest : List Bytes) :
    l.read (.settled given) (word :: rest) =
      l.read ((Progress.settled given).holding a word) rest := by
  have hplain : l.readOptions (.settled given) word = .ok .plain :=
    (readOptions_eq_plain_iff (takesHyphens_eq_false hothers _)).2 hword
  have hdashes : word ≠ [hyphen, hyphen] := by
    rintro rfl
    cases hword
  have hnext : l.nextPositional? (.settled given) = some a := hfirst
  rw [read]
  simp only [hplain, readPositional_one hnext hreach rfl]
  simp [Progress.settled, Progress.start, hsub, hdashes]

/-- The dashes make arguments of all words behind them. -/
lemma read_dashes (hsub : l.subcommands = []) (htrailing : p.isTrailing = false)
    (rest : List Bytes) :
    l.read p ([hyphen, hyphen] :: rest) = l.read { p with isTrailing := true } rest := by
  rw [read]
  simp [htrailing, hsub]

/-- **An argument gets a word behind the dashes as it is**, if they are not reserved for another. -/
lemma read_dashes_argument (hsub : l.subcommands = [])
    (hothers : ∀ a ∈ l.positionals, a.reach ≠ .afterDashes)
    (hfirst : l.positionals[0]? = some a) (hreach : a.reach = .one) (word : Bytes) :
    l.read (.settled given) [[hyphen, hyphen], word] =
      .ok (.words ({ Progress.settled given with isTrailing := true }.holding a word)) := by
  have hnone : (l.positionals.any fun b => b.reach == .afterDashes) = false := by
    simpa using hothers
  have hnext : l.nextPositional? { Progress.settled given with isTrailing := true } = some a := by
    simpa [nextPositional?, hnone, Progress.settled, Progress.start] using hfirst
  rw [read_dashes hsub rfl, read]
  simp only [readPositional_one hnext hreach rfl]
  rw [read]
  simp

/-- **The argument that the words behind the dashes are reserved for gets all of them**, once what
was pending in front has been noted. -/
lemma read_dashes_reserved (hl : l.Reserves a) (htrailing : p.isTrailing = false)
    (hpending : ∀ w ∈ p.pending, w.name ≠ a.name)
    (hsettle : { p with isTrailing := true }.settle = .ok q) (word : Bytes) (words : List Bytes) :
    l.read p ([hyphen, hyphen] :: word :: words) = .ok (.words (taking q a (word :: words))) := by
  have hq : q.isTrailing = true := settle_isTrailing hsettle
  have hnext : l.nextPositional? { p with isTrailing := true } = some a := hl.next rfl
  have hjoins : ((p.pending.map (·.name)) == some a.name) = false := by
    cases hw : p.pending with
    | none => rfl
    | some w => simpa using hpending w hw
  have hfirst : l.readPositional { p with isTrailing := true } word = .ok (taking q a [word]) := by
    unfold readPositional
    simp [hnext, hl.reach, hjoins, hsettle, taking, hq]
  have hrest := read_taking (p := q) (fun _ => hl.next rfl) (by simp [hl.reach]) [word] words
  rw [read_dashes hl.subcommands htrailing, read]
  simp only [hfirst, hrest]
  simp

/-- Options as they are written, which the level has, none of them twice. -/
structure Fits (l : Level) (options : List (Bytes × Option Bytes)) : Prop where
  /-- Each is one of the level's and takes what is attached to it. -/
  taken : ∀ e ∈ options, equals ∉ e.1 ∧ e.1 ≠ [] ∧ ∃ o, l.long? e.1 = some o ∧ o.Takes e.2
  /-- None is there twice. -/
  nodup : (options.map (·.1)).Nodup

/-- A level that has to be given nothing but the word of its first argument. -/
structure Asks (l : Level) (a : Positional) : Prop where
  /-- The argument is the first one. -/
  first : l.positionals[0]? = some a
  /-- It is a word. -/
  reach : a.reach = .one
  /-- No other argument has to be given. -/
  others : ∀ b ∈ l.positionals, b.isRequired → b = a
  /-- No option has to be given. -/
  options : ∀ o ∈ l.options, o.isRequired = false
  /-- No option has the argument's name. -/
  names : ∀ o ∈ l.options, o.long ≠ a.name
  /-- There are no subcommands. -/
  subcommands : l.subcommands = []

variable {options : List (Bytes × Option Bytes)} {words : List Bytes}

/-- What options are noted as. -/
def notedAs (options : List (Bytes × Option Bytes)) : Given :=
  options.map fun e => (e.1, e.2.toList)

/-- Options that the level has are written with its names. -/
lemma Fits.of_taken (hl : ∀ o ∈ l.options, equals ∉ o.long ∧ o.long ≠ [])
    (htaken : ∀ e ∈ options, ∃ o, l.long? e.1 = some o ∧ o.Takes e.2)
    (hnodup : (options.map (·.1)).Nodup) : l.Fits options := by
  refine ⟨fun e he => ?_, hnodup⟩
  obtain ⟨o, ho, htakes⟩ := htaken e he
  obtain ⟨hequals, hne⟩ := hl o (List.mem_of_find?_eq_some ho)
  rw [long_of_long? ho] at hequals hne
  exact ⟨hequals, hne, o, ho, htakes⟩

/-- Options that fit are read and noted. -/
lemma Fits.read (h : l.Fits options) (hsub : l.subcommands = []) (rest : List Bytes) :
    l.read .start (options.map (fun e => written e.1 e.2) ++ rest) =
      l.read (.settled (notedAs options)) rest :=
  read_options hsub h.taken h.nodup (fun _ _ => rfl) rest

/-- No option is noted under the argument's name. -/
lemma Asks.lookup_notedAs (hl : l.Asks a) (h : l.Fits options) :
    (notedAs options).lookup a.name = none := by
  rw [List.lookup_eq_none_iff]
  intro e he
  obtain ⟨e', he', rfl⟩ := List.mem_map.1 he
  obtain ⟨-, -, o, ho, -⟩ := h.taken e' he'
  have hne : o.long ≠ a.name := hl.names o (List.mem_of_find?_eq_some ho)
  rw [long_of_long? ho] at hne
  simpa using hne.symm

/-- A level that asks for an argument is complete once the argument is there and what is pending
suits. -/
lemma Asks.complete {w : Pending} (hl : l.Asks a) (hw : p.pending = some w) (hne : w.values ≠ [])
    (hkind : ∀ value ∈ w.values, w.kind.refusal? value = none)
    (hnew : w.isMany ∨ p.given.lookup w.name = none)
    (hgiven : ((p.given ++ [(w.name, w.values)]).lookup a.name).isSome) :
    l.complete p = .ok (p.given ++ [(w.name, w.values)]) := by
  refine complete_pending hw hne hkind hnew (fun o ho hrequired => ?_) fun b hb hrequired => ?_
  · rw [hl.options o ho] at hrequired
    cases hrequired
  · rwa [hl.others b hb hrequired]

/-- A level is complete with the word of the argument that it asks for. -/
lemma Asks.complete_holding (hl : l.Asks a) (hword : a.kind.refusal? word = none)
    (hnone : p.given.lookup a.name = none) :
    l.complete (p.holding a word) = .ok (p.given ++ [(a.name, [word])]) := by
  have hgiven : ((p.given ++ [(a.name, [word])]).lookup a.name).isSome := by
    rw [List.lookup_append]
    simp
  exact hl.complete (p := p.holding a word) rfl (List.cons_ne_nil _ _) (by simpa) (.inr hnone)
    hgiven

/-- A level is complete with the words behind the dashes, once it has what it asks for. -/
lemma Asks.complete_taking (hl : l.Asks a) (hgiven : (p.given.lookup a.name).isSome)
    (hne : words ≠ []) (hwords : ∀ w ∈ words, b.kind.refusal? w = none) :
    l.complete (taking p b words) = .ok (p.given ++ [(b.name, words)]) := by
  have hstill : ((p.given ++ [(b.name, words)]).lookup a.name).isSome := by
    rw [List.lookup_append, Option.isSome_or, hgiven, Bool.true_or]
  exact hl.complete (p := taking p b words) rfl hne hwords (.inl rfl) hstill

/-- **The argument that is asked for can be any word behind the dashes**, if they are not reserved
for another. -/
lemma Asks.exists_complete_behind (hl : l.Asks a)
    (hothers : ∀ b ∈ l.positionals, b.reach ≠ .afterDashes) (hfits : l.Fits options)
    (hword : a.kind.refusal? word = none) :
    ∃ q, l.read .start
        (options.map (fun e => written e.1 e.2) ++ [[hyphen, hyphen], word]) = .ok (.words q) ∧
      l.complete q = .ok (notedAs options ++ [(a.name, [word])]) := by
  refine ⟨{ Progress.settled (notedAs options) with isTrailing := true }.holding a word, ?_,
    hl.complete_holding hword (hl.lookup_notedAs hfits)⟩
  rw [hfits.read hl.subcommands]
  exact read_dashes_argument hl.subcommands hothers hl.first hl.reach word

/-- **Where the words behind the dashes are reserved, the argument that is asked for can be any word
that does not look like options**, with any words behind the dashes. -/
lemma Asks.exists_complete_front (hl : l.Asks a) (hreserves : l.Reserves b) (hab : a.name ≠ b.name)
    (hfits : l.Fits options) (hlooks : looksLikeOption word = false)
    (hword : a.kind.refusal? word = none) (hwords : ∀ w ∈ words, b.kind.refusal? w = none) :
    ∃ q, l.read .start
        (options.map (fun e => written e.1 e.2) ++ word :: [hyphen, hyphen] :: words) =
          .ok (.words q) ∧
      l.complete q = .ok (notedAs options ++
        (a.name, [word]) :: if words = [] then [] else [(b.name, words)]) := by
  have hnone := hl.lookup_notedAs hfits
  have hfront : l.read .start
      (options.map (fun e => written e.1 e.2) ++ word :: [hyphen, hyphen] :: words) =
        l.read ((Progress.settled (notedAs options)).holding a word)
          ([hyphen, hyphen] :: words) := by
    rw [hfits.read hl.subcommands]
    exact read_argument hl.subcommands hreserves.others hl.first hl.reach hlooks _
  rw [hfront]
  cases words with
  | nil =>
    refine ⟨{ Progress.settled (notedAs options) with isTrailing := true }.holding a word, ?_,
      hl.complete_holding hword hnone⟩
    rw [read_dashes hl.subcommands rfl, Level.read]
    rfl
  | cons first words =>
    -- The first word behind the dashes has the one in front of them noted.
    have hsettle := settle_pending
      (p := { (Progress.settled (notedAs options)).holding a word with isTrailing := true })
      (w := ⟨a.name, a.kind, false, [word]⟩) rfl (List.cons_ne_nil _ _) (by simpa) (.inr hnone)
    have hpending : ∀ w ∈ ((Progress.settled (notedAs options)).holding a word).pending,
        w.name ≠ b.name := by
      intro w hw
      cases hw
      exact hab
    have hgiven : ((notedAs options ++ [(a.name, [word])]).lookup a.name).isSome := by
      rw [List.lookup_append]
      simp
    refine ⟨_, read_dashes_reserved hreserves rfl hpending hsettle first words,
      (hl.complete_taking hgiven (List.cons_ne_nil _ _) hwords).trans ?_⟩
    rw [if_neg (List.cons_ne_nil _ _)]
    exact congrArg _ (List.append_assoc _ _ _)

end Level

end ContainerEntry.CommandLine
