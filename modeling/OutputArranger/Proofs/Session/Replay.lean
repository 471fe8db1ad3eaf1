import OutputArranger.Proofs.Recording
import OutputArranger.Proofs.Session.Mirror
import OutputArranger.Proofs.Session.Rounds

/-!
# Replaying a session

A session handles events in batches, with a pass of the layout after each batch. A recording of it
holds the events but not where a batch ended, and a replay lets a pass follow each event. So the
replay may have sent another request than the session when an answer comes, and what the answer says
about a mode may then be lost on it, or taken for another mode. Everything else comes out the same.
-/

namespace OutputArranger

namespace Session

variable {s t : Session}

/-! ## What is recorded -/

/-- The events of a run. -/
def heard (moves : List Move) : List Event :=
  moves.filterMap fun
    | .event e => some e
    | .pass _ => none

theorem recording_react (s : Session) (e : Event) :
    (s.react e).session.recording = s.recording := by
  cases e with
  | configChanged c => exact (s.fromOutside_configChanged c).untouched.recording
  | lidChanged closed => exact (s.fromOutside_lidChanged closed).untouched.recording
  | command r client => exact (s.fromOutside_command r client).untouched.recording
  | _ => rfl

theorem recording_layout (s : Session) (accepts : Acceptance) :
    (s.layout accepts).session.recording = s.recording := by
  have hrefreshed : s.refreshed.recording = s.recording := by
    unfold refreshed
    split <;> rfl
  cases s.layout_ending accepts with
  | waiting _ hp => rw [hp]; exact hrefreshed
  | standingBack _ hp => rw [hp]; exact hrefreshed
  | resting _ _ _ hp => rw [hp]; exact hrefreshed
  | agreeing _ _ hp => rw [hp]; exact hrefreshed
  | refused _ _ _ _ _ hp => rw [hp]; exact hrefreshed
  | sending r _ _ _ hp => rw [hp]; exact hrefreshed

/-- A run adds its events to the recording, one after another. -/
theorem recording_run (s : Session) (moves : List Move) :
    (s.run moves).recording = s.recording.map fun r =>
      { r with events := r.events ++ ((heard moves).map recordable).toArray } := by
  induction moves generalizing s with
  | nil => simp [heard]
  | cons m rest ih =>
      rw [run_cons, ih]
      cases m with
      | event e =>
          have hrecord : (s.after (.event e)).recording = (s.record e).recording :=
            recording_react (s.record e) e
          rw [hrecord, record, Option.map_map]
          congr 1
          funext r
          simp [heard]
      | pass accepts =>
          rw [after, recording_layout]
          rfl

/-! ## Batches -/

/-- Handles a batch of events, and lets a pass follow. -/
def absorb (s : Session) (batch : List Event) : Except SessionError Session :=
  let step := s.handleAll batch
  match step.error with
  | some e => .error e
  | none =>
      let pass := step.session.layout .always
      match pass.error with
      | some e => .error e
      | none => .ok pass.session

/-- Batches of events, each of them with a pass after it. -/
def inBatches (batches : List (List Event)) : List Move :=
  batches.flatMap fun batch => batch.map .event ++ [.pass .always]

theorem heard_inBatches (batches : List (List Event)) :
    heard (inBatches batches) = batches.flatten := by
  induction batches with
  | nil => rfl
  | cons batch rest ih =>
      have hbatch : heard (batch.map .event ++ [.pass .always]) = batch := by
        simp [heard, List.filterMap_append, List.filterMap_map]
      rw [inBatches, List.flatMap_cons, heard, List.filterMap_append]
      exact congr (congrArg HAppend.hAppend hbatch) ih

theorem managerFinished_notMem {events : List Event}
    (h : (s.handleAll events).error = none) : Event.managerFinished ∉ events := by
  induction events generalizing s with
  | nil => simp
  | cons e rest ih =>
      cases herror : (s.handle e).error with
      | some fault =>
          rw [handleAll] at h
          simp [herror] at h
      | none =>
          rw [handleAll] at h
          simp only [herror] at h
          rw [List.mem_cons, not_or]
          refine ⟨?_, ih h⟩
          rintro rfl
          simp [handle, react] at herror

theorem absorb_eq_ok {batch : List Event} (h : s.absorb batch = .ok t) :
    Event.managerFinished ∉ batch ∧ t = s.run (inBatches [batch]) := by
  unfold absorb at h
  dsimp only at h
  split at h
  · simp at h
  · rename_i hnone
    have hfinished := managerFinished_notMem hnone
    split at h
    · simp at h
    · refine ⟨hfinished, ?_⟩
      rw [inBatches, List.flatMap_singleton, run_append, ← handleAll_eq_run hfinished s]
      exact (Except.ok.inj h).symm

/-- Batches that are handled without errors are a run that ends with a pass, if there are any. -/
theorem absorbAll_eq_ok {batches : List (List Event)} (h : batches.foldlM absorb s = .ok t)
    (hcover : s.coverChanges = false) :
    Event.managerFinished ∉ batches.flatten ∧ t = s.run (inBatches batches) ∧
      t.coverChanges = false := by
  induction batches generalizing s with
  | nil =>
      obtain rfl : s = t := Except.ok.inj h
      exact ⟨by simp, rfl, hcover⟩
  | cons batch rest ih =>
      rw [List.foldlM_cons] at h
      cases hfirst : s.absorb batch with
      | error fault => simp [hfirst, bind, Except.bind] at h
      | ok u =>
          obtain ⟨hfinished, rfl⟩ := absorb_eq_ok hfirst
          rw [hfirst] at h
          have hcovered : (s.run (inBatches [batch])).coverChanges = false := by
            rw [inBatches, List.flatMap_singleton, run_append]
            exact (layout_news _ _).2.1
          obtain ⟨hothers, rfl, hlast⟩ := ih h hcovered
          refine ⟨by simp [hfinished, hothers], ?_, hlast⟩
          rw [← run_append]
          simp [inBatches]

/-! ## Replays -/

/-- Handles events one by one, each with a pass after it. -/
def replayed (s : Session) (events : List Event) : Session :=
  events.foldl (fun s e => ((s.handle e).session.layout .always).session) s

theorem coverChanges_replayed (hcover : t.coverChanges = false) (events : List Event) :
    (t.replayed events).coverChanges = false := by
  induction events generalizing t with
  | nil => exact hcover
  | cons e rest ih => exact ih (layout_news _ _).2.1

/-- Whether every answer in a run says something of the same modes in a replay. -/
def AnswersAlike (s t : Session) : List Move → Prop
  | [] => True
  | .event e :: rest =>
      (e.settles = true → ∀ id ∈ s.outputs.ids, s.awaited id = t.awaited id) ∧
        AnswersAlike (s.handle e).session (t.replayed [recordable e]) rest
  | .pass accepts :: rest => AnswersAlike (s.layout accepts).session t rest

instance decidableAnswersAlike :
    (s t : Session) → (moves : List Move) → Decidable (AnswersAlike s t moves)
  | _, _, [] => .isTrue trivial
  | s, t, .event e :: rest =>
      have := decidableAnswersAlike (s.handle e).session (t.replayed [recordable e]) rest
      inferInstanceAs (Decidable (_ ∧ _))
  | s, t, .pass accepts :: rest => decidableAnswersAlike (s.layout accepts).session t rest

theorem Mirrors.run {answers : Bool} {moves : List Move} (hs : s.Reachable) (ht : t.Reachable)
    (h : Mirrors answers s t) (halike : answers = true → AnswersAlike s t moves) :
    Mirrors answers (s.run moves) (t.replayed ((heard moves).map recordable)) := by
  induction moves generalizing s t with
  | nil => exact h
  | cons m rest ih =>
      cases m with
      | event e =>
          -- the pass that the replay adds changes nothing that is to be seen
          have hhandled := h.handle hs.sound ht.sound fun ha => (halike ha).1
          exact ih (hs.run [.event e]) (ht.run [.event (recordable e), .pass .always])
            (hhandled.layout_right .always) fun ha => (halike ha).2
      | pass accepts => exact ih (hs.layout accepts) ht (h.layout_left accepts) halike

theorem exists_foldlM_step {events : List Event} (h : Event.managerFinished ∉ events)
    (r : Replay) :
    ∃ q, events.foldlM Replay.step r = .ok q ∧ q.session = r.session.replayed events := by
  induction events generalizing r with
  | nil => exact ⟨r, rfl, rfl⟩
  | cons e rest ih =>
      rw [List.mem_cons, not_or] at h
      have hnone : (r.session.handle e).error = none :=
        error_react (fun heq => h.1 heq.symm) (r.session.record e)
      obtain ⟨next, hstep, hsession⟩ : ∃ next, r.step e = .ok next ∧
          next.session = ((r.session.handle e).session.layout .always).session := by
        rw [Replay.step]
        simp only [hnone]
        exact ⟨_, rfl, rfl⟩
      obtain ⟨q, hq, hlast⟩ := ih h.2 next
      refine ⟨q, ?_, ?_⟩
      · rw [List.foldlM_cons, hstep]
        exact hq
      · rw [hlast, hsession]
        rfl

/-! ## Answers that are alike -/

theorem answersAlike_of_no_answers {moves : List Move}
    (h : ∀ e ∈ heard moves, e.settles = false) : AnswersAlike s t moves := by
  induction moves generalizing s t with
  | nil => trivial
  | cons m rest ih =>
      cases m with
      | event e =>
          refine ⟨fun hsettles => ?_, ih fun a ha => h a (List.mem_cons_of_mem _ ha)⟩
          have he : e.settles = false := h e List.mem_cons_self
          simp [he] at hsettles
      | pass accepts => exact ih (s := (s.layout accepts).session) h

/-- A session without its recording, its file and the clients that wait. -/
def unrecorded (s : Session) : Session :=
  { s with configFile := ⟨"", false, none⟩, recording := none, awaiting := [] }

theorem unrecorded_handle (s : Session) (e : Event) :
    (s.handle e).session.unrecorded =
      (s.unrecorded.handle (recordable e)).session.unrecorded := by
  have hconfig (e : Event) : (s.record e).config = s.config := rfl
  have hconfig' (e : Event) : (s.unrecorded.record e).config = s.config := rfl
  cases e with
  | configChanged c =>
      simp only [handle, recordable, react, changeConfig, hconfig, hconfig']
      split <;> rfl
  | lidChanged closed =>
      have hlid (e : Event) : (s.record e).lidClosed = s.lidClosed := rfl
      have hlid' (e : Event) : (s.unrecorded.record e).lidClosed = s.lidClosed := rfl
      have hcover (e : Event) :
          ({ s.unrecorded.record e with lidClosed := some closed } : Session).coverChanges =
            ({ s.record e with lidClosed := some closed } : Session).coverChanges := rfl
      simp only [handle, recordable, react, changeLid, hlid, hlid']
      split
      · rfl
      · simp only [quiet, hcover]
        split <;> rfl
  | command r client =>
      cases r with
      | getConfig => rfl
      | apply command =>
          simp only [handle, recordable, react, control, hconfig, hconfig']
          cases s.config.apply command <;> rfl
      | writeConfig =>
          have hwritable (e : Event) : (s.unrecorded.record e).configFile.writable = false := rfl
          simp only [handle, recordable, react, control, hwritable, Bool.false_eq_true, if_false]
          split <;> rfl
  | _ => rfl

theorem unrecorded_arrange (s : Session) (accepts : Acceptance) (log mine : List Notice) :
    (s.arrange accepts log).session.unrecorded =
      (s.unrecorded.arrange accepts mine).session.unrecorded := by
  have hdue : s.unrecorded.isDue = s.isDue := rfl
  have houtputs : s.unrecorded.desire.outputs = s.desire.outputs := rfl
  unfold arrange
  rw [hdue]
  split
  · simp only [houtputs]
    cases Request.plan s.desire.outputs.heads s.desire.outputs.serial with
    | none => rfl
    | some r =>
        simp only [send]
        cases accepts r <;> rfl
  · rfl

theorem unrecorded_layout (s : Session) (accepts : Acceptance) :
    (s.layout accepts).session.unrecorded =
      (s.unrecorded.layout accepts).session.unrecorded := by
  have hnews : s.unrecorded.hasNews = s.hasNews := rfl
  have hrefreshed : s.unrecorded.refreshed = s.refreshed.unrecorded := by
    unfold refreshed
    rw [hnews]
    split <;> rfl
  have hstatus : s.refreshed.unrecorded.status = s.refreshed.status := rfl
  simp only [layout, hrefreshed, hstatus]
  cases s.refreshed.status with
  | outstanding => rfl
  | cancelled => rfl
  | _ => exact unrecorded_arrange _ accepts _ _

/-- When a pass follows every event anyway, a replay goes through the same sessions. -/
theorem answersAlike_of_single {batches : List (List Event)}
    (hsingle : ∀ batch ∈ batches, batch.length = 1) (h : s.unrecorded = t.unrecorded) :
    AnswersAlike s t (inBatches batches) := by
  induction batches generalizing s t with
  | nil => trivial
  | cons batch rest ih =>
      obtain ⟨e, rfl⟩ := List.length_eq_one_iff.mp (hsingle batch List.mem_cons_self)
      have hawaited : s.awaited = t.awaited := by
        have htransaction : s.transaction = t.transaction :=
          (congrArg Session.transaction h :)
        rw [awaited, htransaction, awaited]
      refine ⟨fun _ id _ => congrFun hawaited id, ?_⟩
      refine ih (fun b hb => hsingle b (List.mem_cons_of_mem _ hb)) ?_
      have hrecordable : recordable (recordable e) = recordable e := by cases e <;> rfl
      have hhandled : (s.handle e).session.unrecorded =
          (t.handle (recordable e)).session.unrecorded := by
        rw [unrecorded_handle s, h, unrecorded_handle t, hrecordable]
      calc ((s.handle e).session.layout .always).session.unrecorded
          = ((s.handle e).session.unrecorded.layout .always).session.unrecorded :=
            unrecorded_layout _ _
        _ = ((t.handle (recordable e)).session.unrecorded.layout .always).session.unrecorded := by
            rw [hhandled]
        _ = ((t.handle (recordable e)).session.layout .always).session.unrecorded :=
            (unrecorded_layout _ _).symm

/-! ## The replay of a recording -/

/-- A session without errors is recorded completely, and its recording can be replayed. The replay
has the same configuration, the same lid and the same heads. It also agrees about the modes if every
answer finds the same mode awaited in both: if no request for a mode is answered, for example, or if
every batch is a single event. -/
theorem replay_agrees {c : Config} {file : ConfigFile} {batches : List (List Event)} {s : Session}
    (hlive : batches.foldlM absorb (start c file true) = .ok s)
    (hreads : (Recording.mk c (batches.flatten.map recordable).toArray).ReadsBack) :
    s.recording = some ⟨c, (batches.flatten.map recordable).toArray⟩ ∧
      ∃ r, Replay.ofBytes
          (Recording.mk c (batches.flatten.map recordable).toArray).text.toUTF8 = .ok r ∧
        r.session.snapshot.withoutModes = s.snapshot.withoutModes ∧
        (AnswersAlike (start c file true) (start c ⟨"", false, none⟩ false) (inBatches batches) →
          r.session.snapshot = s.snapshot) ∧
        ((∀ batch ∈ batches, ∀ e ∈ batch, e.settles = false) →
          r.session.snapshot = s.snapshot) ∧
        ((∀ batch ∈ batches, batch.length = 1) → r.session.snapshot = s.snapshot) := by
  obtain ⟨hfinished, rfl, hcover⟩ := absorbAll_eq_ok hlive rfl
  have hrecordable : Event.managerFinished ∉ batches.flatten.map recordable := by
    intro hmem
    obtain ⟨e, he, heq⟩ := List.mem_map.mp hmem
    cases e <;> simp_all [recordable]
  obtain ⟨r, hr, hsession⟩ := exists_foldlM_step hrecordable (Replay.start c)
  have hmirrors {answers : Bool}
      (halike : answers = true → AnswersAlike (start c file true) (start c ⟨"", false, none⟩ false)
        (inBatches batches)) :
      Mirrors answers ((start c file true).run (inBatches batches)) r.session := by
    rw [hsession, ← heard_inBatches]
    exact Mirrors.run ⟨c, file, true, [], rfl⟩ ⟨c, ⟨"", false, none⟩, false, [], rfl⟩
      ⟨rfl, rfl, rfl⟩ halike
  have hcovered : r.session.coverChanges = false := by
    rw [hsession]
    exact coverChanges_replayed rfl _
  have hall (halike : AnswersAlike (start c file true) (start c ⟨"", false, none⟩ false)
      (inBatches batches)) : r.session.snapshot =
        ((start c file true).run (inBatches batches)).snapshot :=
    ((hmirrors fun _ => halike).snapshot hcover hcovered).symm
  refine ⟨?_, r, ?_, ?_, hall, ?_, ?_⟩
  · rw [recording_run, heard_inBatches]
    simp [start]
  · rw [Replay.ofBytes_text hreads, Replay.ofEvents]
    simp only [hr]
    rfl
  · have hunanswered : Mirrors false ((start c file true).run (inBatches batches)) r.session :=
      hmirrors (by simp)
    exact (hunanswered.withoutModes hcover hcovered).symm
  · intro hnone
    refine hall (answersAlike_of_no_answers fun e he => ?_)
    rw [heard_inBatches] at he
    obtain ⟨batch, hbatch, he⟩ := List.mem_flatten.mp he
    exact hnone batch hbatch e he
  · exact fun hsingle => hall (answersAlike_of_single hsingle rfl)

/-! ## One recording of two sessions -/

/-- No name begins like that of a built-in display. -/
def noPanel : Config := { Config.default with laptopPrefix := "" }

/-- A head is announced with one mode. -/
def announcement : List Event :=
  [.headArrived ⟨1⟩, .modeArrived ⟨1⟩ ⟨10⟩, .modeReported ⟨1⟩ ⟨10⟩ (.size 1280 720),
    .managerDone 1]

/-- It turns out to have a better mode. -/
def betterMode : List Event :=
  [.modeArrived ⟨1⟩ ⟨11⟩, .modeReported ⟨1⟩ ⟨11⟩ (.size 3840 2160)]

/-- The first pass comes late enough to ask for the better mode, which is refused. -/
def askedForBoth : List (List Event) := [announcement ++ betterMode, [.resolved .failed]]

/-- The first pass asks for the only mode that there is, which is refused. -/
def askedAtOnce : List (List Event) := [announcement, betterMode, [.resolved .failed]]

/-- What is recorded of either session. -/
def recordedOfBoth : Recording := ⟨noPanel, (askedAtOnce.flatten.map recordable).toArray⟩

theorem recordedOfBoth_readsBack : recordedOfBoth.ReadsBack := by
  -- as lists of characters, which are far easier to compute than strings
  constructor
  · simp only [Recording.lines, Recording.configLine, Recording.eventLine, IsLine,
      List.forall_mem_cons, List.forall_mem_map, String.toList_ofList]
    decide +kernel
  · simp only [Recording.readConfig, Recording.configLine, Ron.parse, String.toList_ofList]
    decide +kernel
  · simp only [Recording.readEvent, Recording.eventLine, Ron.parse, String.toList_ofList]
    decide +kernel

theorem replay_agrees_askedAtOnce :
    ∃ s r, askedAtOnce.foldlM absorb (start noPanel ⟨"cfg.toml", true, none⟩ true) = .ok s ∧
      recordedOfBoth.ReadsBack ∧
      AnswersAlike (start noPanel ⟨"cfg.toml", true, none⟩ true)
        (start noPanel ⟨"", false, none⟩ false) (inBatches askedAtOnce) ∧
      Replay.ofBytes recordedOfBoth.text.toUTF8 = .ok r ∧ r.session.snapshot = s.snapshot ∧
      s.snapshot.heads.map (·.failedModes) = [["1280x720@0Hz"]] := by
  have halike : AnswersAlike (start noPanel ⟨"cfg.toml", true, none⟩ true)
      (start noPanel ⟨"", false, none⟩ false) (inBatches askedAtOnce) := by decide
  have hlive : askedAtOnce.foldlM absorb (start noPanel ⟨"cfg.toml", true, none⟩ true) =
      .ok ((start noPanel ⟨"cfg.toml", true, none⟩ true).run (inBatches askedAtOnce)) := rfl
  obtain ⟨_, r, hr, _, hsame, _⟩ := replay_agrees hlive recordedOfBoth_readsBack
  exact ⟨_, r, hlive, recordedOfBoth_readsBack, halike, hr, hsame halike, by decide⟩

/-- The recording does not tell which of the two sessions it is of, so that its replay comes to
another end than the other one. -/
theorem replay_differs_askedForBoth :
    ∃ s r, askedForBoth.foldlM absorb (start noPanel ⟨"cfg.toml", true, none⟩ true) = .ok s ∧
      s.recording = some recordedOfBoth ∧ recordedOfBoth.ReadsBack ∧
      Replay.ofBytes recordedOfBoth.text.toUTF8 = .ok r ∧ r.session.snapshot ≠ s.snapshot ∧
      s.snapshot.heads.map (·.failedModes) = [["3840x2160@0Hz"]] ∧
      r.session.snapshot.heads.map (·.failedModes) = [["1280x720@0Hz"]] := by
  have hlive : askedForBoth.foldlM absorb (start noPanel ⟨"cfg.toml", true, none⟩ true) =
      .ok ((start noPanel ⟨"cfg.toml", true, none⟩ true).run (inBatches askedForBoth)) := rfl
  have hfinished : Event.managerFinished ∉ recordedOfBoth.events.toList := by decide
  obtain ⟨r, hr, hsession⟩ := exists_foldlM_step hfinished (Replay.start noPanel)
  have hbytes : Replay.ofBytes recordedOfBoth.text.toUTF8 = .ok r := by
    rw [Replay.ofBytes_text recordedOfBoth_readsBack, Replay.ofEvents]
    exact congrArg (Except.mapError ReplayFault.session) hr
  have hmine : ((start noPanel ⟨"cfg.toml", true, none⟩ true).run
      (inBatches askedForBoth)).snapshot.heads.map (·.failedModes) = [["3840x2160@0Hz"]] := by
    decide
  have hyours : r.session.snapshot.heads.map (·.failedModes) = [["1280x720@0Hz"]] := by
    rw [hsession]
    decide
  refine ⟨_, r, hlive, by decide, recordedOfBoth_readsBack, hbytes, ?_, hmine, hyours⟩
  intro hsame
  rw [hsame, hmine] at hyours
  exact absurd hyours (by decide)

end Session

end OutputArranger
