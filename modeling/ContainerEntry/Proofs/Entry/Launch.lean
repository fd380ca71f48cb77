import Mathlib
import ContainerEntry.Proofs.Environ
import ContainerEntry.World.Run

/-!
# What the workload is started as

A launch makes its calls in one order, and the first that fails ends it (`Request.steps`,
`System.failure?`).  Only a process that has gone through all of them attempts to become the
workload.

* **Attaching** changes the standard streams that have a terminal, and no others, and nothing of who
  the process is (`attach_makes`).
* **Becoming a user** sets the groups, the group and the user, or fails (`become_makes`).
* **Entering a directory** cannot fail, and changes nothing else (`enterDirectory_eq`).

`launch_attempts_as_user` puts them together: what the first failing call says is the failure, an
attempt is made if and only if none fails, and then by a process that is the user in all respects.
Whatever a run of the helper starts is such an attempt (`World.isReady_of_runHelper`).
-/

namespace ContainerEntry

namespace Entry

open Bytes

/-! ### The calls of a launch -/

/-- A call of a launch, or the look at the command that ends it. -/
inductive Step where
  /-- Starting a session. -/
  | startSession
  /-- Opening a terminal for a standard stream. -/
  | openTerminal (stream : Stream) (path : Bytes)
  /-- Replacing a standard stream by its terminal. -/
  | replaceStream (stream : Stream) (path : Bytes)
  /-- Looking the account up. -/
  | lookUp
  /-- Setting the supplementary groups. -/
  | setGroups
  /-- Setting the group. -/
  | setGroup
  /-- Setting the user. -/
  | setUser
  /-- Taking the command. -/
  | takeCommand
  deriving DecidableEq, Repr

/-- The calls by which a standard stream gets the terminal of a path; the standard input is in front
of a session. -/
def attachSteps (stream : Stream) : (path : Option Bytes) → List Step
  | none => []
  | some path =>
    (if stream = .stdin then [.startSession] else []) ++
      [.openTerminal stream path, .replaceStream stream path]

/-- The calls by which the user is set. -/
def becomeSteps : List Step := [.setGroups, .setGroup, .setUser]

/-- The terminal that is asked for a standard stream. -/
def Request.terminal (r : Request) : Stream → Option Bytes
  | .stdin => r.stdin
  | .stdout => r.stdout
  | .stderr => r.stderr

/-- The calls of a launch, in order. -/
def Request.steps (r : Request) : List Step :=
  Stream.all.flatMap (fun stream => attachSteps stream (r.terminal stream)) ++
    .lookUp :: (becomeSteps ++ [.takeCommand])

namespace System

variable (sys : System)

/-- The account of a user id, if the lookup gives one. -/
def found? (uid : UInt32) : Option Account :=
  match sys.account uid with
  | .ok found => found
  | .error _ => none

/-- The failure of a call, if it fails.  That a process leads a session already is none. -/
def failure? (r : Request) : Step → Option Failure
  | .startSession =>
    sys.startSession.bind fun e =>
      if e = .notPermitted then none else some (.terminal (.session e))
  | .openTerminal stream path =>
    match sys.openTerminal stream path with
    | .error fault => some (.terminal (.openFor path stream.descriptor fault))
    | .ok _ => none
  | .replaceStream stream path =>
    (sys.replaceStream stream).map fun fault =>
      .terminal (.replace path stream.descriptor fault)
  | .lookUp =>
    match sys.account r.uid with
    | .error e => some (.user (.lookup r.uid.toNat e))
    | .ok none => some (.user (.unknown r.uid.toNat))
    | .ok (some _) => none
  | .setGroups =>
    (sys.found? r.uid).bind fun a => sys.setGroups.map fun e => .user (.groups a.name e)
  | .setGroup =>
    (sys.found? r.uid).bind fun a => sys.setGroup.map fun e => .user (.group a.gid e)
  | .setUser =>
    (sys.found? r.uid).bind fun a => sys.setUser.map fun e => .user (.user a.uid.toNat e)
  | .takeCommand => if r.command = [] then some missingCommand else none

/-- The failure of the first call that fails. -/
def firstFailure? (r : Request) (steps : List Step) : Option Failure :=
  steps.findSome? (sys.failure? r)

end System

variable {sys : System} {r : Request} {p q : Process}

section firstFailure

variable (sys r)

/-- The failure of the first call comes first. -/
lemma firstFailure?_cons (step : Step) (steps : List Step) :
    sys.firstFailure? r (step :: steps) =
      (sys.failure? r step).or (sys.firstFailure? r steps) := by
  rw [System.firstFailure?, List.findSome?_cons]
  cases sys.failure? r step <;> rfl

/-- The failure of one call is its own. -/
lemma firstFailure?_singleton (step : Step) : sys.firstFailure? r [step] = sys.failure? r step := by
  rw [firstFailure?_cons]
  exact Option.or_none

/-- The failures of the first calls come first. -/
lemma firstFailure?_append (first steps : List Step) :
    sys.firstFailure? r (first ++ steps) =
      (sys.firstFailure? r first).or (sys.firstFailure? r steps) :=
  List.findSome?_append

end firstFailure

/-! ### Steps of a process -/

/-- A step fails so, or it makes a process with a property. -/
structure Makes (s : Stepped) (failure : Option Failure) (property : Process → Prop) : Prop where
  /-- How it fails, if it does. -/
  fails : s.1 = failure
  /-- What it makes if it does not fail. -/
  makes : failure = none → property s.2

section Makes

variable {s : Stepped} {first second : Option Failure} {property property' : Process → Prop}

/-- A step that does not fail. -/
lemma Makes.ok (h : property p) : Makes (none, p) none property := ⟨rfl, fun _ => h⟩

/-- A step that fails makes nothing. -/
lemma Makes.failed (failure : Failure) (p : Process) :
    Makes (some failure, p) (some failure) property :=
  ⟨rfl, fun hnone => by cases hnone⟩

/-- A process that a step has made has the property. -/
lemma Makes.of_eq (h : Makes s first property) (hs : s = (none, q)) : property q := by
  subst hs
  exact h.makes h.fails.symm

/-- Steps one after another fail as the first of them that does. -/
lemma Makes.andThen {next : Process → Stepped} (hs : Makes s first property)
    (hnext : ∀ q, property q → Makes (next q) second property') :
    Makes (s.andThen next) (first.or second) property' := by
  obtain ⟨stop, q⟩ := s
  obtain rfl : stop = first := hs.fails
  cases stop with
  | some failure => exact .failed failure q
  | none => exact hnext q (hs.makes rfl)

end Makes

/-! ### Attaching -/

namespace Process

/-- What a standard stream of a process stands on: the terminal that was asked for, or what it stood
on before. -/
def StandsOn (sys : System) (r : Request) (before after : Process) (stream : Stream) : Prop :=
  match r.terminal stream with
  | some path => ∃ i, sys.openTerminal stream path = .ok i ∧ after.replaced stream = some i
  | none => after.replaced stream = before.replaced stream

/-- Some of the standard streams of a process were attached, and nothing else changed but that it
may lead a session. -/
structure IsAttached (sys : System) (r : Request) (done : List Stream) (before after : Process) :
    Prop where
  /-- The user is the same. -/
  uid : after.uid = before.uid
  /-- The group is the same. -/
  gid : after.gid = before.gid
  /-- The supplementary groups are the same. -/
  groups : after.groups = before.groups
  /-- The directory is the same. -/
  cwd : after.cwd = before.cwd
  /-- The streams stand on what was asked for. -/
  standsOn : ∀ stream ∈ done, StandsOn sys r before after stream
  /-- All others stand where they stood. -/
  others : ∀ stream, stream ∉ done → after.replaced stream = before.replaced stream

variable {before : Process} {done : List Stream} {stream : Stream}

/-- Starting a session changes nothing else. -/
lemma startSession_makes (r : Request) (h : IsAttached sys r done before p) :
    Makes (p.startSession sys) (sys.failure? r .startSession) (IsAttached sys r done before) := by
  unfold startSession System.failure?
  cases sys.startSession with
  | none => exact .ok ⟨h.uid, h.gid, h.groups, h.cwd, h.standsOn, h.others⟩
  | some e =>
    by_cases he : e = .notPermitted
    · simp only [if_pos he, Option.bind_some]
      exact .ok h
    · simp only [if_neg he, Option.bind_some]
      exact .failed _ p

/-- A process with one more stream on its terminal. -/
lemma IsAttached.withStream {path : Bytes} {i : Inode} (h : IsAttached sys r done before p)
    (hpath : r.terminal stream = some path) (hopen : sys.openTerminal stream path = .ok i) :
    IsAttached sys r (done ++ [stream]) before (p.withStream stream i) := by
  refine ⟨h.uid, h.gid, h.groups, h.cwd, ?_, ?_⟩
  · intro other hother
    by_cases heq : other = stream
    · subst heq
      simp only [StandsOn, hpath]
      exact ⟨i, hopen, if_pos rfl⟩
    · have hdone : other ∈ done := by simpa [heq] using hother
      have hkept : (p.withStream stream i).replaced other = p.replaced other := if_neg heq
      have hstands := h.standsOn other hdone
      unfold StandsOn at hstands ⊢
      rwa [hkept]
  · intro other hother
    have hnot : other ∉ done ∧ other ≠ stream := by simpa using hother
    have hkept : (p.withStream stream i).replaced other = p.replaced other := if_neg hnot.2
    rw [hkept]
    exact h.others other hnot.1

/-- A process with one more stream that no terminal is asked for. -/
lemma IsAttached.without (h : IsAttached sys r done before p) (hnew : stream ∉ done)
    (hpath : r.terminal stream = none) : IsAttached sys r (done ++ [stream]) before p := by
  refine ⟨h.uid, h.gid, h.groups, h.cwd, ?_, ?_⟩
  · intro other hother
    by_cases heq : other = stream
    · subst heq
      simp only [StandsOn, hpath]
      exact h.others other hnew
    · exact h.standsOn other (by simpa [heq] using hother)
  · intro other hother
    exact h.others other fun hmem => hother (List.mem_append_left _ hmem)

/-- Replacing a stream by a terminal opens the terminal first. -/
lemma replace_makes {path : Bytes} (h : IsAttached sys r done before p)
    (hpath : r.terminal stream = some path) :
    Makes (match sys.openTerminal stream path with
        | .error fault => (some (.terminal (.openFor path stream.descriptor fault)), p)
        | .ok i =>
          match sys.replaceStream stream with
          | some fault => (some (.terminal (.replace path stream.descriptor fault)), p)
          | none => (none, p.withStream stream i))
      (sys.firstFailure? r [.openTerminal stream path, .replaceStream stream path])
      (IsAttached sys r (done ++ [stream]) before) := by
  rw [firstFailure?_cons, firstFailure?_singleton]
  simp only [System.failure?]
  cases hopen : sys.openTerminal stream path with
  | error fault => exact .failed _ p
  | ok i =>
    cases sys.replaceStream stream with
    | some fault => exact .failed _ p
    | none => exact .ok (h.withStream hpath hopen)

/-- **Attaching a stream puts it on its terminal and leaves the others where they stand.** -/
lemma attachOne_makes (h : IsAttached sys r done before p) (hnew : stream ∉ done) :
    Makes (p.attachOne sys stream (r.terminal stream))
      (sys.firstFailure? r (attachSteps stream (r.terminal stream)))
      (IsAttached sys r (done ++ [stream]) before) := by
  cases hpath : r.terminal stream with
  | none => exact .ok (h.without hnew hpath)
  | some path =>
    have hsession : Makes (if stream = .stdin then p.startSession sys else (none, p))
        (sys.firstFailure? r (if stream = .stdin then [.startSession] else []))
        (IsAttached sys r done before) := by
      by_cases hstdin : stream = .stdin
      · rw [if_pos hstdin, if_pos hstdin, firstFailure?_singleton]
        exact startSession_makes r h
      · rw [if_neg hstdin, if_neg hstdin]
        exact .ok h
    rw [attachSteps, firstFailure?_append]
    exact hsession.andThen fun q hq => replace_makes hq hpath

/-- **Attaching puts every stream on the terminal that was asked for it**, and leaves the others
where they stand. -/
lemma attach_makes (sys : System) (r : Request) (p : Process) :
    Makes (p.attach sys r.stdin r.stdout r.stderr)
      (sys.firstFailure? r
        (Stream.all.flatMap fun stream => attachSteps stream (r.terminal stream)))
      (IsAttached sys r Stream.all p) := by
  have hnothing : IsAttached sys r [] p p :=
    ⟨rfl, rfl, rfl, rfl, fun _ hmem => absurd hmem List.not_mem_nil, fun _ _ => rfl⟩
  have hstdin := attachOne_makes hnothing (show Stream.stdin ∉ [] by decide)
  have hstdout := hstdin.andThen fun q hq =>
    attachOne_makes hq (show Stream.stdout ∉ [.stdin] by decide)
  have hstderr := hstdout.andThen fun q hq =>
    attachOne_makes hq (show Stream.stderr ∉ [.stdin, .stdout] by decide)
  have hall : Stream.all.flatMap (fun stream => attachSteps stream (r.terminal stream)) =
      attachSteps .stdin r.stdin ++ attachSteps .stdout r.stdout ++
        attachSteps .stderr r.stderr := by
    simp [Stream.all, Request.terminal]
  rw [hall, firstFailure?_append, firstFailure?_append]
  exact hstderr

/-! ### Becoming the user -/

/-- A process that is the user of an account, with the groups that the account has. -/
structure IsUser (sys : System) (account : Account) (p : Process) : Prop where
  /-- The user is the account's. -/
  uid : p.uid = account.uid.toNat
  /-- The group is the account's. -/
  gid : p.gid = account.gid
  /-- The supplementary groups are the account's group and those that name it as a member. -/
  groups : p.groups = account.gid :: sys.groupsOf account

/-- A process that has become the user of an account, and is otherwise what it was. -/
structure HasBecome (sys : System) (account : Account) (before after : Process) : Prop where
  /-- It is the user. -/
  isUser : IsUser sys account after
  /-- Its streams stand where they stood. -/
  replaced : after.replaced = before.replaced
  /-- Its directory is the same. -/
  cwd : after.cwd = before.cwd

/-- **Becoming a user sets the groups, the group and the user, or fails.** -/
lemma become_makes {account : Account} (h : sys.found? r.uid = some account) (p : Process) :
    Makes (p.become sys account) (sys.firstFailure? r becomeSteps) (HasBecome sys account p) := by
  simp only [becomeSteps, firstFailure?_cons, System.failure?, h, Option.bind_some, become]
  cases sys.setGroups with
  | some e => exact .failed _ p
  | none =>
    cases sys.setGroup with
    | some e => exact .failed _ _
    | none =>
      cases sys.setUser with
      | some e => exact .failed _ _
      | none => exact .ok ⟨⟨rfl, rfl, rfl⟩, rfl, rfl⟩

/-! ### Entering the directory -/

/-- The directory that a process ends up in: the one that was asked for, or else the home, or else
where it is. -/
def endsIn (sys : System) (cwd home : Bytes) (here : Inode) : Inode :=
  ((sys.changeDirectory cwd).toOption.or (sys.enterHome home).toOption).getD here

/-- Entering a directory changes nothing else. -/
lemma enterDirectory_eq (sys : System) (cwd home : Bytes) (p : Process) :
    p.enterDirectory sys cwd home = { p with cwd := endsIn sys cwd home p.cwd } := by
  unfold enterDirectory endsIn
  cases sys.changeDirectory cwd with
  | ok i => rfl
  | error e => cases sys.enterHome home <;> rfl

end Process

/-! ### The launch -/

/-- A process that may become the workload: it is the user, its streams stand on what was asked for,
and it is in the directory that was asked for, or at home, or where it was. -/
structure Process.IsReady (sys : System) (r : Request) (before after : Process) : Prop where
  /-- The account was found, and the process is its user and where that user goes. -/
  isUser : ∃ account, sys.account r.uid = .ok (some account) ∧ IsUser sys account after ∧
    after.cwd = endsIn sys r.cwd account.home before.cwd
  /-- The streams stand on the terminals that were asked for, and nowhere else than before
  otherwise. -/
  standsOn : ∀ stream, StandsOn sys r before after stream

/-- The user that a launch becomes goes where its account says, on the streams that were attached.
-/
lemma Process.HasBecome.isReady {account : Account} {attached : Process}
    (h : HasBecome sys account attached p) (hattached : IsAttached sys r Stream.all q attached)
    (haccount : sys.account r.uid = .ok (some account)) :
    IsReady sys r q (p.enterDirectory sys r.cwd account.home) := by
  rw [enterDirectory_eq]
  refine ⟨⟨account, haccount, ⟨h.isUser.uid, h.isUser.gid, h.isUser.groups⟩, ?_⟩, ?_⟩
  · rw [h.cwd, hattached.cwd]
  · intro stream
    have hstands := hattached.standsOn stream (by cases stream <;> decide)
    unfold StandsOn at hstands ⊢
    rwa [← h.replaced] at hstands

section launch

variable {inherited : List (Bytes × Bytes)} {attached : Process}

/-- What a launch came to: its calls fail as the first of them that does, or a process that is ready
attempts to become the workload. -/
def Launch.Settles (l : Launch) (sys : System) (inherited : List (Bytes × Bytes)) (r : Request)
    (p : Process) : Option Failure → Prop
  | some failure => l.attempt = .error failure
  | none => l.attempt = .ok ⟨r.command, r.environment inherited⟩ ∧
      Process.IsReady sys r p l.process

/-- A settled launch has failed so, or made the attempt that was asked for. -/
lemma Launch.Settles.attempt_eq {l : Launch} {failure : Option Failure} :
    l.Settles sys inherited r p failure → l.attempt = match failure with
      | some failure => .error failure
      | none => .ok ⟨r.command, r.environment inherited⟩ := by
  intro h
  cases failure with
  | some failure => exact h
  | none => exact h.1

/-- Whatever process attempts to become the workload is ready. -/
lemma Launch.Settles.isReady {l : Launch} {failure : Option Failure} {attempt : Attempt}
    (h : l.Settles sys inherited r p failure) (hattempt : l.attempt = .ok attempt) :
    Process.IsReady sys r p l.process := by
  cases failure with
  | some failure => cases h.attempt_eq.symm.trans hattempt
  | none => exact h.2

/-- Once the account is found, becoming the user and taking the command settle the launch. -/
lemma settles_of_found {account : Account}
    (hattached : p.attach sys r.stdin r.stdout r.stderr = (none, attached))
    (hmade : Process.IsAttached sys r Stream.all p attached)
    (haccount : sys.account r.uid = .ok (some account)) :
    (launch sys inherited r p).Settles sys inherited r p
      (sys.firstFailure? r (becomeSteps ++ [.takeCommand])) := by
  have hfound : sys.found? r.uid = some account := by rw [System.found?, haccount]
  have hbecome := Process.become_makes hfound attached
  rw [firstFailure?_append, ← hbecome.fails, firstFailure?_singleton]
  cases hbecame : attached.become sys account with
  | mk stop q =>
    cases stop with
    | some failure => simp [Launch.Settles, launch, hattached, haccount, hbecame]
    | none =>
      have hq : Process.HasBecome sys account attached q := hbecome.of_eq hbecame
      by_cases hcommand : r.command = []
      · simp [Launch.Settles, launch, hattached, haccount, hbecame, System.failure?, hcommand]
      · have hready := hq.isReady hmade haccount
        simp [Launch.Settles, launch, hattached, haccount, hbecame, System.failure?, hcommand,
          hready]

/-- **The first call that fails settles a launch**, or else the process that is ready. -/
lemma launch_settles (sys : System) (inherited : List (Bytes × Bytes)) (r : Request)
    (p : Process) :
    (launch sys inherited r p).Settles sys inherited r p (sys.firstFailure? r r.steps) := by
  have hattach := Process.attach_makes sys r p
  rw [Request.steps, firstFailure?_append, ← hattach.fails, firstFailure?_cons]
  cases hattached : p.attach sys r.stdin r.stdout r.stderr with
  | mk stop attached =>
    cases stop with
    | some failure => simp [Launch.Settles, launch, hattached]
    | none =>
      have hmade : Process.IsAttached sys r Stream.all p attached := hattach.of_eq hattached
      rw [Option.none_or]
      cases haccount : sys.account r.uid with
      | error e => simp [Launch.Settles, launch, hattached, haccount, System.failure?]
      | ok found =>
        cases found with
        | none => simp [Launch.Settles, launch, hattached, haccount, System.failure?]
        | some account =>
          have hlookUp : sys.failure? r .lookUp = none := by
            simp only [System.failure?, haccount]
          rw [hlookUp, Option.none_or]
          exact settles_of_found hattached hmade haccount

end launch

/-- The value of a variable for the workload: what was asked for before what was inherited, the last
of equal names, and the variable of sessions without a replay before all. -/
lemma get?_environment (r : Request) (inherited : List (Bytes × Bytes)) (name : Bytes) :
    (r.environment inherited).get? name =
      if r.noReplay = true ∧ name = noReplayVariable then some (ofString "1")
      else (r.environ.reverse.lookup name).or (inherited.reverse.lookup name) := by
  have hrest : ((Environ.ofList inherited).insertAll r.environ).get? name =
      (r.environ.reverse.lookup name).or (inherited.reverse.lookup name) := by
    rw [Environ.get?_insertAll, Environ.get?_ofList]
  cases hreplay : r.noReplay with
  | true => simp [Request.environment, hreplay, Environ.get?_insert, hrest]
  | false => simp [Request.environment, hreplay, hrest]

/-- **The workload is started by a process that is the user in all respects, or not at all.**  A
launch fails as the first of its calls that does, and attempts to become the workload if and only if
none does.  A process that attempts it has the user, the group and the supplementary groups of the
account of the user id; the standard streams that a terminal was asked for stand on it, and the
others where they stood; and it is in the directory that was asked for, or else at home, or else
where it was, which never hinders the attempt.  The workload's variables are the inherited ones,
overridden by those asked for, of which the last of equal names counts, and by the one against a
replay if and only if that is asked for. -/
theorem launch_attempts_as_user (sys : System) (inherited : List (Bytes × Bytes)) (r : Request)
    (p : Process) :
    ((launch sys inherited r p).attempt = match sys.firstFailure? r r.steps with
      | some failure => .error failure
      | none => .ok ⟨r.command, r.environment inherited⟩) ∧
    (∀ attempt, (launch sys inherited r p).attempt = .ok attempt →
      Process.IsReady sys r p (launch sys inherited r p).process) ∧
    (∀ enter enterHome, (launch { sys with changeDirectory := enter, enterHome := enterHome }
      inherited r p).attempt = (launch sys inherited r p).attempt) ∧
    ∀ name, (r.environment inherited).get? name =
      if r.noReplay = true ∧ name = noReplayVariable then some (ofString "1")
      else (r.environ.reverse.lookup name).or (inherited.reverse.lookup name) := by
  refine ⟨(launch_settles sys inherited r p).attempt_eq, ?_, ?_, get?_environment r inherited⟩
  · intro attempt hattempt
    exact (launch_settles sys inherited r p).isReady hattempt
  · intro enter enterHome
    rw [(launch_settles sys inherited r p).attempt_eq,
      (launch_settles { sys with changeDirectory := enter, enterHome := enterHome } inherited r
        p).attempt_eq]
    -- No call before the attempt enters a directory.
    rfl

/-- A system where the process leads a session already, the terminal `/t` can be opened, and the
directory that is asked for cannot be entered. -/
def leadingSystem : System where
  startSession := some .notPermitted
  openTerminal _ path := if path = ofString "/t" then .ok 7 else .error (.os .noEntry)
  replaceStream _ := none
  account uid := .ok (if uid = 5 then some ⟨"u", 5, 50, "/home/u"⟩ else none)
  groupsOf _ := [51]
  setGroups := none
  setGroup := none
  setUser := none
  changeDirectory _ := .error .access
  enterHome _ := .ok 9

/-- A process of the superuser, which leads a session. -/
def superuser : Process := ⟨0, 0, [0], fun _ => none, true, 1⟩

/-- A request with a terminal on the standard input, and one variable twice. -/
def attachedRequest : Request where
  stdin := some "/t"
  stdout := none
  stderr := none
  uid := 5
  cwd := "/work"
  noReplay := true
  environ := [("A", "1"), (noReplayVariable, "0"), ("A", "2")]
  command := ["sh"]

/-- The superuser's process becomes the user, at home, with the terminal on the standard input only;
the last of two values counts, and the variable against a replay is set. -/
theorem launch_attempts_as_user_leading :
    let l := launch leadingSystem [("A", "0"), ("B", "3")] attachedRequest superuser
    l.attempt = .ok ⟨["sh"], attachedRequest.environment [("A", "0"), ("B", "3")]⟩ ∧
      l.process.uid = 5 ∧ l.process.gid = 50 ∧ l.process.groups = [50, 51] ∧ l.process.cwd = 9 ∧
      l.process.replaced .stdin = some 7 ∧ l.process.replaced .stdout = none ∧
      (attachedRequest.environment [("A", "0"), ("B", "3")]).get? "A" = some (ofString "2") ∧
      (attachedRequest.environment [("A", "0"), ("B", "3")]).get? noReplayVariable =
        some (ofString "1") := by
  obtain ⟨hattempt, hready, -, hvalues⟩ := launch_attempts_as_user leadingSystem
    [("A", "0"), ("B", "3")] attachedRequest superuser
  have hok : (launch leadingSystem [("A", "0"), ("B", "3")] attachedRequest superuser).attempt =
      .ok ⟨["sh"], attachedRequest.environment [("A", "0"), ("B", "3")]⟩ := hattempt
  obtain ⟨⟨account, haccount, huser, hcwd⟩, hstands⟩ := hready _ hok
  obtain rfl : (⟨"u", 5, 50, "/home/u"⟩ : Account) = account := by
    exact Option.some.inj (Except.ok.inj haccount)
  have hstdin := hstands .stdin
  obtain ⟨i, hopen, hterminal⟩ := hstdin
  obtain rfl : 7 = i := Except.ok.inj hopen
  refine ⟨hok, huser.uid, huser.gid, huser.groups, hcwd, hterminal, hstands .stdout, ?_, ?_⟩
  · rw [hvalues]
    decide
  · rw [hvalues]
    decide

end Entry

/-! ### The helper -/

namespace World

open Entry CommandLine

/-- Writing is no sighting. -/
lemma sightings_write (w : World) (report : Report) (stream : Stream) (bytes : Bytes) :
    (w.write report stream bytes).sightings = report.sightings := by
  unfold write Report.write
  split
  · rfl
  · cases stream <;> rfl

/-- Writing is no sighting, wherever the stream stands. -/
lemma sightings_writeTo (w : World) (report : Report) (p : Entry.Process) (stream : Stream)
    (bytes : Bytes) : (w.writeTo report p stream bytes).sightings = report.sightings := by
  unfold writeTo
  split
  · exact sightings_write w report stream bytes
  · split <;> rfl

/-- A failure of the helper is no sighting. -/
lemma sightings_failFrom (w : World) (p : Entry.Process) (failure : Failure) :
    (w.failFrom p failure).sightings = [] :=
  sightings_writeTo w _ p _ _

/-- A workload is run by the process that attempts to become it, with the attempt's variables. -/
lemma workload_of_becomeWorkload {w : World} {r : Request} {p : Entry.Process} {attempt : Attempt}
    {s : Sighting} (hs : s ∈ (w.becomeWorkload r p attempt).sightings) :
    s.workload = some (attempt.environ, p) := by
  unfold becomeWorkload at hs
  dsimp only at hs
  split at hs
  · rw [sightings_failFrom] at hs
    cases hs
  · simp only [Option.mem_toList, Option.map_eq_some_iff] at hs
    obtain ⟨seen, -, rfl⟩ := hs
    rfl

/-- **Whatever workload the helper runs is run by a process that is ready**, for the request of the
helper's command line, with the variables of that request. -/
theorem isReady_of_runHelper {w : World} {words : List Bytes} {s : Sighting}
    (hs : s ∈ (w.runHelper words).sightings) :
    ∃ i vars command p, HelperInvocation.parse words = .ok i ∧
      splitEnviron i.words = .ok (vars, command) ∧
      s.workload = some ((requestOf i vars command).environment w.environ, p) ∧
      Process.IsReady w.system (requestOf i vars command) w.rootProcess p := by
  unfold runHelper at hs
  split at hs
  next refusal _ =>
    have hnone : (w.refuse refusal).sightings = [] := sightings_write w _ _ _
    rw [hnone] at hs
    cases hs
  next i hparse =>
    split at hs
    next failure _ =>
      have hnone : ((w.fail {} failure).exit 2).sightings = [] := sightings_write w _ _ _
      rw [hnone] at hs
      cases hs
    next vars command hsplit =>
      have hsettles := launch_settles w.system w.environ (requestOf i vars command) w.rootProcess
      have hattempt := hsettles.attempt_eq
      cases hfirst : w.system.firstFailure? (requestOf i vars command)
          (requestOf i vars command).steps with
      | some failure =>
        rw [hfirst] at hattempt
        simp only [hattempt, sightings_failFrom] at hs
        cases hs
      | none =>
        rw [hfirst] at hattempt
        simp only [hattempt] at hs
        exact ⟨i, vars, command, _, hparse, hsplit, workload_of_becomeWorkload hs,
          hsettles.isReady hattempt⟩

end World

end ContainerEntry
