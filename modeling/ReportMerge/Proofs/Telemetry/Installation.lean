/-
Which of many requests installs the subscriber. It is the first one whose filter is
well formed: ill-formed filters are reported whenever they come and use nothing up,
and well-formed ones that come later are told that they come too late. The filter of
that one request decides which events of a merge are written from then on.
-/

import ReportMerge.Proofs.Merge.ClosedForm
import ReportMerge.Proofs.Telemetry.NamedThreshold
import ReportMerge.Proofs.Text.Terminal

namespace ReportMerge

def Filter.Unreadable (text : String) : Prop := ∃ fault, ofText text = .error fault

/-- The text names a threshold, or is no filter at all. -/
def Filter.Plain (text : String) : Prop :=
  (∃ threshold : Threshold, threshold.NamedBy text) ∨ Unreadable text

/-- What the environment names counts, and where it has no readable filter what the settings
name. -/
inductive Asks (environment : Option String) (log : LogSettings) (threshold : Threshold) : Prop
  | environment {text : String} : environment = some text → threshold.NamedBy text →
      Asks environment log threshold
  | settings : (∀ text, environment = some text → Filter.Unreadable text) →
      threshold.NamedBy log.level → Asks environment log threshold

theorem LogSettings.filter_of_unreadable {environment : Option String}
    (unreadable : ∀ text, environment = some text → Filter.Unreadable text) (log : LogSettings) :
    log.filter environment = Filter.ofText log.level := by
  unfold filter
  cases given : environment with
  | none => rfl
  | some text =>
      obtain ⟨fault, refused⟩ := unreadable text given
      rw [Option.map_some, refused]

theorem Asks.filter_eq {environment : Option String} {log : LogSettings} {threshold : Threshold}
    (asks : Asks environment log threshold) :
    log.filter environment = .ok [.ofThreshold threshold] := by
  cases asks with
  | environment given named =>
      subst given
      unfold LogSettings.filter
      rw [Option.map_some, named.filter_ofText]
  | settings unreadable named =>
      rw [LogSettings.filter_of_unreadable unreadable, named.filter_ofText]

section

variable {environment : Option String} {log : LogSettings}
  (environmentPlain : ∀ text, environment = some text → Filter.Plain text)
  (levelPlain : Filter.Plain log.level)

include environmentPlain levelPlain

/-- Who asks for nothing is told what is wrong with the filter of the settings. -/
theorem filter_eq_error_of_not_asks (asksNothing : ¬∃ threshold, Asks environment log threshold) :
    ∃ fault, log.filter environment = .error fault ∧ Filter.ofText log.level = .error fault := by
  have unreadable : ∀ text, environment = some text → Filter.Unreadable text := by
    intro text given
    rcases environmentPlain text given with ⟨threshold, named⟩ | refused
    · exact absurd ⟨threshold, .environment given named⟩ asksNothing
    · exact refused
  rw [LogSettings.filter_of_unreadable unreadable]
  rcases levelPlain with ⟨threshold, named⟩ | ⟨fault, refused⟩
  · exact absurd ⟨threshold, .settings unreadable named⟩ asksNothing
  · exact ⟨fault, refused, refused⟩

theorem exists_filter_iff_asks :
    (∃ filter, log.filter environment = .ok filter) ↔
      ∃ threshold, Asks environment log threshold := by
  constructor
  · rintro ⟨filter, wellFormed⟩
    by_contra asksNothing
    obtain ⟨fault, refused, _⟩ :=
      filter_eq_error_of_not_asks environmentPlain levelPlain asksNothing
    rw [wellFormed] at refused
    cases refused
  · rintro ⟨threshold, asks⟩
    exact ⟨_, asks.filter_eq⟩

end

/-! ### One request after the other -/

def LogSettings.subscriber? (environment : Option String) (log : LogSettings) : Option Subscriber :=
  (log.filter environment).toOption.map fun filter => { filter, json := log.json }

theorem LogSettings.subscriber?_eq_none_iff {environment : Option String} {log : LogSettings} :
    log.subscriber? environment = none ↔ ∃ fault, log.filter environment = .error fault := by
  unfold subscriber?
  cases log.filter environment with
  | error fault => simp [Except.toOption]
  | ok filter => simp [Except.toOption]

variable (environment : Option String)

def firstSubscriber? (requests : List LogSettings) : Option Subscriber :=
  requests.findSome? (LogSettings.subscriber? environment)

theorem install_snd (installed : Option Subscriber) (log : LogSettings) :
    (install environment installed log).2 = installed.or (log.subscriber? environment) := by
  unfold install LogSettings.subscriber?
  cases log.filter environment with
  | error fault => cases installed <;> rfl
  | ok filter => cases installed <;> rfl

theorem install_eq_ok_iff (installed : Option Subscriber) (log : LogSettings) :
    (install environment installed log).1 = .ok () ↔
      installed = none ∧ ∃ filter, log.filter environment = .ok filter := by
  unfold install
  cases log.filter environment with
  | error fault => simp
  | ok filter => cases installed <;> simp

theorem installAll_snd (installed : Option Subscriber) (requests : List LogSettings) :
    (installAll environment installed requests).2 =
      installed.or (firstSubscriber? environment requests) := by
  induction requests generalizing installed with
  | nil => exact Option.or_none.symm
  | cons log others ih =>
      change (installAll environment (install environment installed log).2 others).2 = _
      rw [ih, install_snd, Option.or_assoc]
      unfold firstSubscriber?
      rw [List.findSome?_cons]
      cases log.subscriber? environment <;> rfl

theorem getElem?_installAll (installed : Option Subscriber) (requests : List LogSettings)
    (index : Nat) :
    (installAll environment installed requests).1[index]? =
      requests[index]?.map fun log =>
        (install environment
          (installed.or (firstSubscriber? environment (requests.take index))) log).1 := by
  induction requests generalizing installed index with
  | nil => rfl
  | cons log others ih =>
      cases index with
      | zero =>
          rw [List.take_zero]
          change some (install environment installed log).1 =
            some (install environment (installed.or none) log).1
          rw [Option.or_none]
      | succ index =>
          change (installAll environment (install environment installed log).2 others).1[index]? = _
          rw [ih, install_snd, List.getElem?_cons_succ, List.take_succ_cons, Option.or_assoc]
          unfold firstSubscriber?
          rw [List.findSome?_cons]
          cases log.subscriber? environment <;> rfl

theorem length_installAll (installed : Option Subscriber) (requests : List LogSettings) :
    (installAll environment installed requests).1.length = requests.length := by
  induction requests generalizing installed with
  | nil => rfl
  | cons log others ih => exact congrArg Nat.succ (ih _)

variable {environment} {requests : List LogSettings} {index : Nat} {log : LogSettings}

theorem answer_eq_ok_iff (given : requests[index]? = some log) :
    (installAll environment none requests).1[index]? = some (.ok ()) ↔
      firstSubscriber? environment (requests.take index) = none ∧
        ∃ filter, log.filter environment = .ok filter := by
  rw [getElem?_installAll, given, Option.map_some, Option.some.injEq, Option.none_or,
    install_eq_ok_iff]

theorem answer_of_illFormed {fault : DirectiveFault} (given : requests[index]? = some log)
    (illFormed : log.filter environment = .error fault) :
    (installAll environment none requests).1[index]? =
      some (.error (.invalidFilter fault)) := by
  rw [getElem?_installAll, given, Option.map_some]
  unfold install
  rw [illFormed]

theorem answer_of_wellFormed_of_ne_ok {filter : Filter} (given : requests[index]? = some log)
    (wellFormed : log.filter environment = .ok filter)
    (failed : (installAll environment none requests).1[index]? ≠ some (.ok ())) :
    (installAll environment none requests).1[index]? = some (.error .alreadyInstalled) := by
  rw [ne_eq, answer_eq_ok_iff given, not_and] at failed
  rw [getElem?_installAll, given, Option.map_some, Option.none_or]
  cases earlier : firstSubscriber? environment (requests.take index) with
  | none => exact absurd ⟨filter, wellFormed⟩ (failed earlier)
  | some subscriber =>
      unfold install
      rw [wellFormed]

theorem firstSubscriber?_take_eq_none_iff (index : Nat) :
    firstSubscriber? environment (requests.take index) = none ↔
      ∀ earlier < index, (installAll environment none requests).1[earlier]? ≠ some (.ok ()) := by
  induction index with
  | zero => simp [firstSubscriber?]
  | succ index ih =>
      rw [Nat.forall_lt_succ_right, ← ih]
      cases given : requests[index]? with
      | none =>
          have ended := List.getElem?_eq_none_iff.mp given
          have unanswered : (installAll environment none requests).1[index]? = none := by
            rw [getElem?_installAll, given, Option.map_none]
          rw [List.take_of_length_le ended, List.take_of_length_le (Nat.le_succ_of_le ended),
            unanswered]
          simp
      | some log =>
          rw [List.take_add_one, given, ne_eq, answer_eq_ok_iff given]
          unfold firstSubscriber?
          rw [List.findSome?_append, Option.or_eq_none_iff, Option.toList_some,
            List.findSome?_singleton, LogSettings.subscriber?_eq_none_iff]
          cases log.filter environment with
          | error fault => simp
          | ok filter => simp

theorem installAll_snd_of_ok (given : requests[index]? = some log)
    (succeeded : (installAll environment none requests).1[index]? = some (.ok ())) :
    (installAll environment none requests).2 = log.subscriber? environment := by
  obtain ⟨none_before, filter, wellFormed⟩ := (answer_eq_ok_iff given).mp succeeded
  have present : log.subscriber? environment = some { filter, json := log.json } := by
    unfold LogSettings.subscriber?
    rw [wellFormed]
    rfl
  have split : requests = requests.take index ++ log :: requests.drop (index + 1) := by
    obtain ⟨within, here⟩ := List.getElem?_eq_some_iff.mp given
    rw [← here, ← List.drop_eq_getElem_cons within, List.take_append_drop]
  unfold firstSubscriber? at none_before
  rw [installAll_snd, Option.none_or, split]
  unfold firstSubscriber?
  rw [List.findSome?_append, none_before, Option.none_or, List.findSome?_cons, present]

theorem installAll_snd_of_no_ok
    (failed : ∀ index : Nat, (installAll environment none requests).1[index]? ≠ some (.ok ())) :
    (installAll environment none requests).2 = none := by
  have untouched : firstSubscriber? environment requests = none := by
    rw [← List.take_length (l := requests), firstSubscriber?_take_eq_none_iff]
    exact fun earlier _ => failed earlier
  rw [installAll_snd, Option.none_or, untouched]

/-! ### What a refused request is told -/

theorem DirectiveFault.message_ne (fault : DirectiveFault) :
    fault.message ≠ "a global default trace dispatcher has already been set" := by
  intro same
  have texts := congrArg String.toList same
  cases fault with
  | malformed => exact absurd texts (by decide)
  | unknownLevel => exact absurd texts (by decide)
  | unusablePattern refusal =>
      change ("invalid field filter: " ++ refusal.message).toList = _ at texts
      rw [String.toList_append] at texts
      have first : 'i' = 'a' := List.head_eq_of_cons_eq texts
      cases first

/-- The reason tells a request that comes too late from one whose filter is ill formed. -/
theorem InstallFailure.exists_reason (failure : InstallFailure) :
    ∃ reason, failure.message = "Failed to install tracing subscriber: " ++ reason ∧
      (reason = "a global default trace dispatcher has already been set" ↔
        failure = .alreadyInstalled) := by
  cases failure with
  | alreadyInstalled =>
      exact ⟨"a global default trace dispatcher has already been set", by decide,
        iff_of_true rfl rfl⟩
  | invalidFilter fault =>
      refine ⟨fault.message, rfl, iff_of_false fault.message_ne ?_⟩
      intro impossible
      cases impossible

/-- Whether lines are written as JSON plays no part in the answers. -/
theorem installAll_congr {others : List LogSettings} {installed installedToo : Option Subscriber}
    (sameState : installed.isSome = installedToo.isSome)
    (sameLevels : requests.map LogSettings.level = others.map LogSettings.level) :
    (installAll environment installed requests).1 =
      (installAll environment installedToo others).1 := by
  induction requests generalizing others installed installedToo with
  | nil =>
      rw [List.map_eq_nil_iff.mp sameLevels.symm]
      rfl
  | cons log rest ih =>
      cases others with
      | nil => cases sameLevels
      | cons other others =>
          obtain ⟨sameLevel, sameRest⟩ := List.cons.inj sameLevels
          have sameFilter : other.filter environment = log.filter environment := by
            unfold LogSettings.filter
            rw [sameLevel]
          have sameAnswer : (install environment installed log).1 =
              (install environment installedToo other).1 := by
            unfold install
            rw [sameFilter]
            cases log.filter environment <;> cases installed <;> cases installedToo <;>
              first | rfl | cases sameState
          have sameAfter : (install environment installed log).2.isSome =
              (install environment installedToo other).2.isSome := by
            rw [install_snd, install_snd, Option.isSome_or, Option.isSome_or, sameState]
            unfold LogSettings.subscriber?
            rw [sameFilter, Option.isSome_map, Option.isSome_map]
          exact congrArg₂ List.cons sameAnswer (ih sameAfter sameRest)

/-! ### What is written in the end -/

def LogSettings.lineOf (log : LogSettings) (event : Event) : LogLine where
  json := log.json
  level := event.level
  target := mergeTarget
  message := if log.json then event.message else Text.forTerminal event.message

/-- JSON shows a message as it is, and plain text does unless it could steer a terminal. -/
theorem LogSettings.message_lineOf {log : LogSettings} {event : Event}
    (shown : log.json = true ∨ ∀ char ∈ event.message.toList, Text.Harmless char) :
    (log.lineOf event).message = event.message := by
  change (if log.json then event.message else Text.forTerminal event.message) = event.message
  rcases shown with json | harmless
  · rw [if_pos json]
  · rw [Text.forTerminal_eq_self_iff.mpr harmless, ite_self]

theorem emitted_of_ok {threshold : Threshold} (given : requests[index]? = some log)
    (succeeded : (installAll environment none requests).1[index]? = some (.ok ()))
    (asks : Asks environment log threshold) (events : List Event) :
    emitted (installAll environment none requests).2 events =
      (events.filter fun event => threshold.admits event.level).map log.lineOf := by
  rw [installAll_snd_of_ok given succeeded]
  unfold LogSettings.subscriber?
  rw [asks.filter_eq]
  change ((events.filter fun event => Threshold.admits (Filter.thresholdFor
    [.ofThreshold threshold] mergeTarget.toList mergeFields) event.level).map log.lineOf) = _
  rw [Filter.thresholdFor_ofThreshold]

/-- The law of installation. A request succeeds exactly when it asks for a threshold and no earlier
one has succeeded; of those that fail, the ones that ask for nothing are told of their filters and
the others that they come too late. Only the filters play a part in that. From then on the lines
for the events of a merge are those that the threshold of the successful request admits, in
order, and their messages those of the events; without such a request there are none. -/
theorem first_readable_filter_decides (environment : Option String) (requests : List LogSettings)
    (environmentPlain : ∀ text, environment = some text → Filter.Plain text)
    (levelsPlain : ∀ log ∈ requests, Filter.Plain log.level) :
    let answers := (installAll environment none requests).1
    let installed := (installAll environment none requests).2
    answers.length = requests.length ∧
    (∀ (index : Nat) log, requests[index]? = some log →
      (answers[index]? = some (.ok ()) ↔ (∃ threshold, Asks environment log threshold) ∧
        ∀ earlier < index, answers[earlier]? ≠ some (.ok ())) ∧
      ((¬∃ threshold, Asks environment log threshold) →
        ∃ fault, answers[index]? = some (.error (.invalidFilter fault)) ∧
          Filter.ofText log.level = .error fault) ∧
      ((∃ threshold, Asks environment log threshold) → answers[index]? ≠ some (.ok ()) →
        answers[index]? = some (.error .alreadyInstalled)) ∧
      ∀ failure, answers[index]? = some (.error failure) → ∃ reason,
        failure.message = "Failed to install tracing subscriber: " ++ reason ∧
          (reason = "a global default trace dispatcher has already been set" ↔
            ∃ threshold, Asks environment log threshold)) ∧
    (∀ others : List LogSettings,
      requests.map LogSettings.level = others.map LogSettings.level →
        (installAll environment none others).1 = answers) ∧
    ∀ (policy : MergePolicy) (client : Report) (nodes : NodeReports),
      let events := ((policy.mergeInPlace nodes).after { client }).2.told
      (∀ (index : Nat) log threshold, requests[index]? = some log →
        answers[index]? = some (.ok ()) → Asks environment log threshold →
        emitted installed events =
          (events.filter fun event => threshold.admits event.level).map log.lineOf ∧
        ∀ event ∈ events,
          (log.json = true ∨ ∀ char ∈ event.message.toList, Text.Harmless char) →
            (log.lineOf event).message = event.message) ∧
      ((∀ index : Nat, answers[index]? ≠ some (.ok ())) → emitted installed events = []) := by
  intro answers installed
  refine ⟨length_installAll environment none requests, ?_, ?_, ?_⟩
  · intro index log given
    have levelPlain := levelsPlain log (List.mem_of_getElem? given)
    have tellsOfFilter : (¬∃ threshold, Asks environment log threshold) →
        ∃ fault, answers[index]? = some (.error (.invalidFilter fault)) ∧
          Filter.ofText log.level = .error fault := by
      intro asksNothing
      obtain ⟨fault, illFormed, refused⟩ :=
        filter_eq_error_of_not_asks environmentPlain levelPlain asksNothing
      exact ⟨fault, answer_of_illFormed given illFormed, refused⟩
    have tellsOfDelay : (∃ threshold, Asks environment log threshold) →
        answers[index]? ≠ some (.ok ()) → answers[index]? = some (.error .alreadyInstalled) := by
      rintro ⟨threshold, asks⟩ failed
      exact answer_of_wellFormed_of_ne_ok given asks.filter_eq failed
    refine ⟨?_, tellsOfFilter, tellsOfDelay, ?_⟩
    · rw [answer_eq_ok_iff given, firstSubscriber?_take_eq_none_iff,
        exists_filter_iff_asks environmentPlain levelPlain, and_comm]
    · intro failure failed
      obtain ⟨reason, text, late_iff⟩ := failure.exists_reason
      refine ⟨reason, text, late_iff.trans ?_⟩
      constructor
      · intro late
        by_contra asksNothing
        obtain ⟨fault, told, _⟩ := tellsOfFilter asksNothing
        rw [failed, late] at told
        cases told
      · intro asks
        have delayed := tellsOfDelay asks (by rw [failed]; rintro ⟨⟩)
        rw [failed] at delayed
        exact Except.error.inj (Option.some.inj delayed)
  · intro others sameLevels
    exact (installAll_congr rfl sameLevels).symm
  · intro policy client nodes events
    refine ⟨?_, ?_⟩
    · intro index log threshold given succeeded asks
      exact ⟨emitted_of_ok given succeeded asks events, fun _ _ => LogSettings.message_lineOf⟩
    · intro failed
      change emitted (installAll environment none requests).2 events = []
      rw [installAll_snd_of_no_ok failed]
      rfl

/-- An environment without a readable filter, and four requests: the second one decides. Of a merge
that warns of a bare record, omits its key and sums up, only the warning is written, with the same
message as JSON and as plain text. -/
theorem warning_alone_after_second_request :
    let environment := some "[not=a=filter"
    let requests (json : Bool) : List LogSettings :=
      [{ level := "=" }, { level := "WaRn", json }, { level := "off" },
        { level := "[not=a=filter" }]
    let client : Report := { violations := [(Violation.ofRule "b" true true).withoutPermissions] }
    let policy : MergePolicy := { missingPermissions := .deny }
    (∀ text, environment = some text → Filter.Plain text) ∧
      ∀ json, (∀ log ∈ requests json, Filter.Plain log.level) ∧
        (installAll environment none (requests json)).1 =
          [.error (.invalidFilter .malformed), .ok (), .error .alreadyInstalled,
            .error (.invalidFilter .malformed)] ∧
        emitted (installAll environment none (requests json)).2
            ((policy.mergeInPlace []).after { client }).2.told =
          [{ json, level := .warn, target := "flowrec_cluster::merge"
             message := "ResultMerger: violation of rule 'b' from client has no permission "
               ++ "descriptor, treating as denied" }] := by
  intro environment requests client policy
  have unmarked : Filter.ofText "=" = .error .malformed := rfl
  have opened : Filter.ofText "[not=a=filter" = .error .malformed := rfl
  have warns : Threshold.NamedBy (some .warn) "WaRn" :=
    .of_toLower (Text.toLower_eq_of_map rfl : "WaRn".toLower = "warn") (by decide)
  have silent : Threshold.NamedBy none "off" :=
    .of_toLower (Text.toLower_eq_of_map rfl : "off".toLower = "off") (by decide)
  have environmentUnreadable : ∀ text, environment = some text → Filter.Unreadable text := by
    intro text given
    rw [← Option.some.inj given]
    exact ⟨.malformed, opened⟩
  have environmentPlain : ∀ text, environment = some text → Filter.Plain text :=
    fun text given => .inr (environmentUnreadable text given)
  refine ⟨environmentPlain, ?_⟩
  intro json
  have levelsPlain : ∀ log ∈ requests json, Filter.Plain log.level := by
    simp only [requests, List.forall_mem_cons, List.not_mem_nil, false_implies, implies_true]
    exact ⟨.inr ⟨_, unmarked⟩, .inl ⟨_, warns⟩, .inl ⟨_, silent⟩, .inr ⟨_, opened⟩, trivial⟩
  have answers : (installAll environment none (requests json)).1 =
      [.error (.invalidFilter .malformed), .ok (), .error .alreadyInstalled,
        .error (.invalidFilter .malformed)] := by
    simp only [requests, installAll, install,
      LogSettings.filter_of_unreadable environmentUnreadable, unmarked, opened,
      warns.filter_ofText, silent.filter_ofText]
  obtain ⟨_, _, _, written⟩ :=
    first_readable_filter_decides environment (requests json) environmentPlain levelsPlain
  obtain ⟨shown, _⟩ := written policy client []
  have succeeded : (installAll environment none (requests json)).1[1]? = some (.ok ()) := by
    rw [answers]
    rfl
  obtain ⟨lines, _⟩ := shown 1 _ _ rfl succeeded (.settings environmentUnreadable warns)
  refine ⟨levelsPlain, answers, lines.trans ?_⟩
  have told : ((policy.mergeInPlace []).after { client }).2.told =
      [.treatedAsDenied "b" .client, .omitted ⟨"b", false⟩, .merged 0 0 0 1] := by decide
  rw [told]
  cases json <;> rfl

end ReportMerge
