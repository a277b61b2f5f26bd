import BuildScope.Buildbucket.Session
import Mathlib.Data.List.TakeWhile

/-!
# Logging In Once

A session is asked one question after the other, and the tool may behave differently each time: it
may not start, refuse the login, fail to list, fail to get, or be killed. Whatever it does, nobody
who is not logged in gets to ask for builds, and nobody who is logged in is asked to log in again.

Only one thing is remembered between two questions, whether somebody is logged in. It is remembered
exactly if a run that asks for it has succeeded (`Session.isLoggedIn_iff_of_ask_eq`), and what a
question comes to follows from it (`Session.query_of_error` and the lemmas after it).

## Main results

* `Session.Guarded`: what holds of an exchange after some earlier ones.
* `Session.ask_guarded`: it holds of every exchange of a new session.
-/

namespace BuildScope

/-- Nothing is left of a text when its ends are trimmed if it is blank as a whole. -/
theorem Text.trim_eq_nil_iff {text : List Char} : trim text = [] ↔ ∀ c ∈ text, isBlank c := by
  rw [trim, List.reverse_eq_nil_iff, List.dropWhile_eq_nil_iff]
  constructor
  · intro h c hc
    rw [← List.takeWhile_append_dropWhile (p := isBlank) (l := text), List.mem_append] at hc
    rcases hc with hfirst | hrest
    · exact List.mem_takeWhile_imp hfirst
    · exact h c (List.mem_reverse.2 hrest)
  · intro h c hc
    exact h c ((List.dropWhile_sublist _).subset (List.mem_reverse.1 hc))

namespace Buildbucket

/-- A question to a session: the builder, and how the tool behaves in the meantime. -/
structure Question where
  tool : Tool
  builder : Builder

/-- A question with what came of it. -/
structure Exchange where
  question : Question
  report : Report

/-- A login was asked for in an exchange, and somebody was logged in. -/
def Exchange.LogsIn (exchange : Exchange) : Prop :=
  .authInfo ∈ exchange.report.runs ∧
    ∃ response, exchange.question.tool.start .authInfo = .ok response ∧ response.status.isSuccess

namespace Session

/-- What a question to a session comes to. -/
def exchange (session : Session) (question : Question) : Exchange :=
  ⟨question, (session.query question.tool question.builder).2⟩

/-- The session after a question. -/
def next (session : Session) (question : Question) : Session :=
  (session.query question.tool question.builder).1

/-- What some questions to a session come to, asked one after the other. -/
def ask (session : Session) : List Question → List Exchange
  | [] => []
  | question :: questions => session.exchange question :: (session.next question).ask questions

/-- What holds of an exchange with a session, after some earlier exchanges. -/
structure Guarded (binary : String) (earlier : List Exchange) (exchange : Exchange) : Prop where
  /-- Builds are asked for only after somebody was found to be logged in. -/
  login_first : (∃ run ∈ exchange.report.runs, run ≠ .authInfo) →
    ∃ other ∈ earlier ++ [exchange], other.LogsIn
  /-- Until then the login is asked for, once, and the question fails if that does. -/
  login_once : (∀ other ∈ earlier, ¬ other.LogsIn) →
    match exchange.question.tool.start .authInfo with
    | .error fault =>
      exchange.report.runs = [] ∧ exchange.report.answer = .error (.notStarted fault)
    | .ok response =>
      exchange.report.runs.count .authInfo = 1 ∧
        (¬ response.status.isSuccess →
          exchange.report.runs = [.authInfo] ∧ exchange.report.answer = .error .notAuthenticated)
  /-- After that it is not asked for again. -/
  login_kept : (∃ other ∈ earlier, other.LogsIn) → .authInfo ∉ exchange.report.runs
  /-- Who is logged in learns what the second of the two runs has printed, however the first one
  has ended. -/
  answered : (∃ other ∈ earlier ++ [exchange], other.LogsIn) → ∀ listing response,
    exchange.question.tool.start (.list exchange.question.builder.path) = .ok listing →
    exchange.question.tool.start (.get listing.output) = .ok response →
    if response.status.isSuccess then
      if response.output.lossy.toList.all Text.isBlank then exchange.report.answer = .ok none
      else
        exchange.report.answer =
          .ok (some (String.ofList (Text.trim response.output.lossy.toList)))
    else
      exchange.report.answer =
        .error (.commandFailed (binary ++ " get -A -json") response.status)

variable {session : Session} {tool : Tool} {builder : Builder}

/-! ## One question -/

/-- A login that cannot be asked for is reported, and nothing is run. -/
theorem query_of_error {fault : StartFault} (h : ¬ session.isLoggedIn)
    (hstart : tool.start .authInfo = .error fault) :
    session.query tool builder = (session, ⟨[], none, .error (.notStarted fault)⟩) := by
  simp [query, logIn, h, hstart]

/-- A login that is refused is reported, and nothing else is run. -/
theorem query_of_refused {response : Response} (h : ¬ session.isLoggedIn)
    (hstart : tool.start .authInfo = .ok response) (hstatus : ¬ response.status.isSuccess) :
    session.query tool builder = (session, ⟨[.authInfo], none, .error .notAuthenticated⟩) := by
  simp [query, logIn, h, hstart, hstatus]

/-- A login that succeeds is remembered, and the builds are asked for. -/
theorem query_of_success {response : Response} (h : ¬ session.isLoggedIn)
    (hstart : tool.start .authInfo = .ok response) (hstatus : response.status.isSuccess) :
    session.query tool builder =
      ({ session with isLoggedIn := true },
        { session.queryBuild tool builder.path with
          runs := .authInfo :: (session.queryBuild tool builder.path).runs }) := by
  simp [query, logIn, h, hstart, hstatus, queryBuild, queryListed]

/-- Asking for builds never asks for a login. -/
theorem authInfo_notMem_queryBuild (session : Session) (tool : Tool) (path : String) :
    .authInfo ∉ (session.queryBuild tool path).runs := by
  unfold queryBuild queryListed
  -- one case for each way in which the two runs can end
  split
  · simp
  · dsimp only
    split
    · simp
    · split <;> simp

theorem description_eq_none {output : Text.Document}
    (h : output.lossy.toList.all Text.isBlank) : description output = none := by
  rw [description, Text.trim_eq_nil_iff.2 (List.all_eq_true.1 h)]
  rfl

theorem description_eq_some {output : Text.Document}
    (h : ¬ output.lossy.toList.all Text.isBlank) :
    description output = some (String.ofList (Text.trim output.lossy.toList)) := by
  rw [List.all_eq_true, ← Text.trim_eq_nil_iff] at h
  have hne : String.ofList (Text.trim output.lossy.toList) ≠ "" := by
    intro hempty
    exact h (String.ofList_injective hempty)
  simp [description, hne]

/-- The answer is up to the second run, however the first one has ended. -/
theorem answer_queryBuild {path : String} {listing response : Response}
    (hlist : tool.start (.list path) = .ok listing)
    (hget : tool.start (.get listing.output) = .ok response) :
    (session.queryBuild tool path).answer =
      if response.status.isSuccess then .ok (description response.output)
      else .error (.commandFailed (session.binary ++ " get -A -json") response.status) := by
  -- the arguments are reported behind the name of the tool
  have hcommand : " ".intercalate (session.binary :: (Run.get listing.output).arguments) =
      session.binary ++ " get -A -json" := by
    show session.binary ++ " " ++ "get" ++ " " ++ "-A" ++ " " ++ "-json" = _
    simp [String.append_assoc]
  rw [queryBuild, hlist]
  dsimp only
  rw [queryListed]
  dsimp only
  rw [hget, hcommand]
  dsimp only
  split <;> rfl

/-! ## What is remembered -/

/-- An exchange logs in if nobody was logged in and a login succeeds. -/
theorem logsIn_exchange_iff {question : Question} :
    (session.exchange question).LogsIn ↔ ¬ session.isLoggedIn ∧
      ∃ response, question.tool.start .authInfo = .ok response ∧ response.status.isSuccess := by
  constructor
  · rintro ⟨hrun, hsuccess⟩
    refine ⟨?_, hsuccess⟩
    intro h
    rw [exchange, query_of_isLoggedIn h] at hrun
    exact authInfo_notMem_queryBuild _ _ _ hrun
  · rintro ⟨h, response, hstart, hstatus⟩
    refine ⟨?_, response, hstart, hstatus⟩
    rw [exchange, query_of_success h hstart hstatus]
    exact List.mem_cons_self

/-- Somebody is known to be logged in after a question if so before, or if it has logged in. -/
theorem isLoggedIn_next {question : Question} :
    (session.next question).isLoggedIn ↔
      session.isLoggedIn ∨ (session.exchange question).LogsIn := by
  rw [logsIn_exchange_iff, next]
  by_cases h : session.isLoggedIn
  · simp [query_of_isLoggedIn h, h]
  cases hstart : question.tool.start .authInfo with
  | error fault => simp [query_of_error h hstart, h]
  | ok response =>
    by_cases hstatus : response.status.isSuccess
    · simp [query_of_success h hstart hstatus, h, hstatus]
    · simp [query_of_refused h hstart hstatus, h, hstatus]

theorem binary_next {question : Question} : (session.next question).binary = session.binary := by
  rw [next]
  by_cases h : session.isLoggedIn
  · rw [query_of_isLoggedIn h]
  cases hstart : question.tool.start .authInfo with
  | error fault => rw [query_of_error h hstart]
  | ok response =>
    by_cases hstatus : response.status.isSuccess
    · rw [query_of_success h hstart hstatus]
    · rw [query_of_refused h hstart hstatus]

theorem map_question_ask (session : Session) (questions : List Question) :
    (session.ask questions).map Exchange.question = questions := by
  induction questions generalizing session with
  | nil => rfl
  | cons question questions ih => rw [ask, List.map_cons, ih, exchange]

/-- Every exchange is one with the session that the exchanges before it have led to, and that
session knows of a login exactly if one of them has made it. -/
theorem exists_exchange_of_ask_eq {questions : List Question} {earlier later : List Exchange}
    {last : Exchange} (h : session.ask questions = earlier ++ last :: later) :
    ∃ current : Session, last = current.exchange last.question ∧
      current.binary = session.binary ∧
      (current.isLoggedIn ↔ session.isLoggedIn ∨ ∃ other ∈ earlier, other.LogsIn) := by
  -- by the exchanges before the last one, each of which leads to the next session
  induction earlier generalizing session questions with
  | nil =>
    cases questions with
    | nil => cases h
    | cons question questions =>
      obtain ⟨rfl, -⟩ := List.cons.inj h
      exact ⟨session, rfl, rfl, by simp⟩
  | cons first earlier ih =>
    cases questions with
    | nil => cases h
    | cons question questions =>
      obtain ⟨rfl, hrest⟩ := List.cons.inj h
      obtain ⟨current, hlast, hbinary, hlogin⟩ := ih hrest
      refine ⟨current, hlast, hbinary.trans binary_next, ?_⟩
      rw [hlogin, isLoggedIn_next, or_assoc]
      simp [or_and_right, exists_or]

/-! ## One exchange after others -/

/-- Builds are asked for by a session that knows of a login, or that has just made one. -/
theorem isLoggedIn_next_of_run {question : Question} {run : Run}
    (hrun : run ∈ (session.exchange question).report.runs) (hne : run ≠ .authInfo) :
    (session.next question).isLoggedIn := by
  rw [isLoggedIn_next, logsIn_exchange_iff]
  by_cases h : session.isLoggedIn
  · exact .inl h
  refine .inr ⟨h, ?_⟩
  rw [exchange] at hrun
  cases hstart : question.tool.start .authInfo with
  | error fault => simp [query_of_error h hstart] at hrun
  | ok response =>
    by_cases hstatus : response.status.isSuccess
    · exact ⟨response, rfl, hstatus⟩
    · simp [query_of_refused h hstart hstatus, hne] at hrun

/-- A session that knows of a login after a question has asked for the builds. -/
theorem answer_exchange {question : Question}
    (h : (session.next question).isLoggedIn) :
    (session.exchange question).report.answer =
      (session.queryBuild question.tool question.builder.path).answer := by
  rw [isLoggedIn_next, logsIn_exchange_iff] at h
  rw [exchange]
  rcases h with h | ⟨h, response, hstart, hstatus⟩
  · rw [query_of_isLoggedIn h]
  · rw [query_of_success h hstart hstatus]

/-- What a session knows of earlier logins guards its next exchange. -/
theorem guarded_exchange {question : Question} {earlier : List Exchange}
    (hlogin : session.isLoggedIn ↔ ∃ other ∈ earlier, other.LogsIn) :
    Guarded session.binary earlier (session.exchange question) := by
  have hnext : (session.next question).isLoggedIn ↔
      ∃ other ∈ earlier ++ [session.exchange question], other.LogsIn := by
    rw [isLoggedIn_next, hlogin]
    simp [or_and_right, exists_or]
  refine ⟨?_, ?_, ?_, ?_⟩
  · rintro ⟨run, hrun, hne⟩
    exact hnext.1 (isLoggedIn_next_of_run hrun hne)
  · -- nobody has logged in before, so that the exchange starts with the login check
    intro hnone
    have h : ¬ session.isLoggedIn := by
      rw [hlogin]
      rintro ⟨other, hother, hlogs⟩
      exact hnone other hother hlogs
    rw [exchange]
    cases hstart : question.tool.start .authInfo with
    | error fault =>
      rw [query_of_error h hstart]
      exact ⟨rfl, rfl⟩
    | ok response =>
      dsimp only
      by_cases hstatus : response.status.isSuccess
      · rw [query_of_success h hstart hstatus]
        refine ⟨?_, absurd hstatus⟩
        have hrest := authInfo_notMem_queryBuild session question.tool question.builder.path
        rw [List.count_cons_self, List.count_eq_zero.2 hrest]
      · rw [query_of_refused h hstart hstatus]
        exact ⟨by simp, fun _ => ⟨rfl, rfl⟩⟩
  · -- the check is not made again
    intro hsome
    rw [exchange, query_of_isLoggedIn (hlogin.2 hsome)]
    exact authInfo_notMem_queryBuild _ _ _
  · intro hsome listing response hlist hget
    change question.tool.start (.list question.builder.path) = .ok listing at hlist
    rw [answer_exchange (hnext.2 hsome), answer_queryBuild hlist hget]
    split
    · by_cases hblank : response.output.lossy.toList.all Text.isBlank
      · rw [if_pos hblank, description_eq_none hblank]
      · rw [if_neg hblank, description_eq_some hblank]
    · rfl

/-- Whatever the tool does while a new session is asked some questions, the session asks for builds
only once somebody is logged in, and does not ask for a login again after that. -/
theorem ask_guarded (binary : String) (questions : List Question) :
    (({ binary } : Session).ask questions).map Exchange.question = questions ∧
      ∀ earlier exchange later,
        ({ binary } : Session).ask questions = earlier ++ exchange :: later →
          Guarded binary earlier exchange := by
  refine ⟨map_question_ask _ questions, ?_⟩
  intro earlier exchange later h
  obtain ⟨current, hexchange, hbinary, hlogin⟩ := exists_exchange_of_ask_eq h
  rw [Bool.false_eq_true, false_or] at hlogin
  obtain rfl : current.binary = binary := hbinary
  rw [hexchange]
  exact guarded_exchange hlogin

/-- A login is refused and then made, and is kept although the tool comes to a bad end twice and
would refuse the next login. The last question is answered although its listing has failed. -/
theorem ask_guarded_of_failures :
    let builder : Builder := { name := "linux-rel", type := .ci, isInternal := false }
    let ids := Text.Document.ofString "8001"
    let refusing : Tool := fun
      | .authInfo => .ok { status := .exited 1 }
      | .list _ => .ok { output := ids, status := .exited 1 }
      | .get _ => .ok { output := .ofString " [] " }
    let failing : Tool := fun
      | .authInfo => .ok {}
      | .list _ => .ok { output := ids }
      | .get _ => .ok { status := .killed }
    let questions : List Question := [⟨refusing, builder⟩, ⟨failing, builder⟩, ⟨refusing, builder⟩]
    let exchanges := ({} : Session).ask questions
    let runs := [.list builder.path, .get ids]
    exchanges.map (fun exchange => exchange.report.runs) =
        [[.authInfo], .authInfo :: runs, runs] ∧
      ∃ first second third, exchanges = [first, second] ++ third :: [] ∧
        Guarded "bb" [first, second] third ∧ third.report.answer = .ok (some "[]") := by
  intro builder ids refusing failing questions exchanges runs
  refine ⟨by decide, _, _, _, rfl, ?_, by decide⟩
  exact (ask_guarded "bb" questions).2 _ _ [] rfl

end Session

end Buildbucket

end BuildScope
