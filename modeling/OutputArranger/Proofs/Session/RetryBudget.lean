import OutputArranger.Proofs.Session.OpenRequest
import OutputArranger.Proofs.Session.Refusal

/-!
# How many attempts there are

As long as nothing new comes from outside, only so many requests are sent: one for each attempt that
is left. An attempt is spent by the answer to a request, all attempts are there again when a pass
finds that heads have come or gone or that the lid covers other heads, and once all are spent
nothing is marked any more.
-/

namespace OutputArranger.Session

/-- A move with which nothing new comes from outside: a pass, the word that the state of the
compositor is consistent, a request that came to nothing, and what clients ask and users write
without a change. -/
def Unprompted (s : Session) : Move → Prop
  | .pass _ => True
  | .event (.managerDone _) => True
  | .event (.resolved outcome) => outcome ≠ .succeeded ∧ s.transaction.isSome = true
  | .event (.configChanged c) => c.same s.config = true
  | .event (.command .getConfig _) => True
  | .event (.command .writeConfig _) => True
  | .event (.command (.apply command) _) => ∃ refusal, s.config.apply command = .error refusal
  | .event _ => False

/-- How many requests may still be sent before something new comes from outside. -/
def sendsLeft (s : Session) : Nat :=
  if s.hasNews || s.coverChanges then maxRetries + 1
  else if s.transaction.isSome then maxRetries - s.outputs.retries
  else if s.outputs.isDirty then max 1 (maxRetries + 1 - s.outputs.retries)
  else 0

theorem sendsLeft_le (s : Session) : s.sendsLeft ≤ maxRetries + 1 := by
  unfold sendsLeft
  split_ifs <;> omega

theorem sendsLeft_of_clean {s : Session} (hnews : s.hasNews = false)
    (hcover : s.coverChanges = false) (ht : s.transaction = none)
    (hclean : s.outputs.isDirty = false) : s.sendsLeft = 0 := by
  simp [sendsLeft, hnews, hcover, ht, hclean]

/-- News from outside leave every attempt. -/
theorem sendsLeft_of_news {s : Session} (h : ¬ (s.hasNews = false ∧ s.coverChanges = false)) :
    s.sendsLeft = maxRetries + 1 := by
  have hnews : (s.hasNews || s.coverChanges) = true := by
    cases hn : s.hasNews <;> simp_all
  rw [sendsLeft, hnews, if_pos rfl]

/-- It takes an open request or a mark to send one without news. -/
theorem sendsLeft_quiet {s : Session} (hnews : s.hasNews = false)
    (hcover : s.coverChanges = false) :
    s.sendsLeft =
      if s.transaction.isSome then maxRetries - s.outputs.retries
      else if s.outputs.isDirty then max 1 (maxRetries + 1 - s.outputs.retries)
      else 0 := by
  simp [sendsLeft, hnews, hcover]

/-! ## Events -/

theorem sendsLeft_react {s : Session} {e : Event} (he : s.Unprompted (.event e))
    (hanswer : e.isAnswer = false) : (s.react e).session.sendsLeft = s.sendsLeft := by
  have serial (n : Nat) (t : Session) (h : t.outputs = { s.outputs with serial := n })
      (hc : t.config = s.config) (hl : t.lidClosed = s.lidClosed)
      (ht : t.transaction = s.transaction) : t.sendsLeft = s.sendsLeft := by
    rw [sendsLeft, hasNews, coverChanges, h, hc, hl, ht]
    rfl
  have same (t : Session) (h : t.outputs = s.outputs) := serial s.outputs.serial t h
  cases e with
  | resolved outcome => simp [Event.isAnswer] at hanswer
  | managerDone n => exact serial n _ rfl rfl rfl rfl
  | configChanged c =>
      simp only [Unprompted] at he
      simp only [react, changeConfig, he, if_true]
      exact same _ rfl rfl rfl rfl
  | command r client =>
      cases r with
      | getConfig => exact same _ rfl rfl rfl rfl
      | apply command =>
          obtain ⟨refusal, hrefused⟩ := he
          simp only [react, control, hrefused]
      | writeConfig =>
          simp only [react, control]
          split <;> exact same _ rfl rfl rfl rfl
  | _ => exact he.elim

/-- A request that comes to nothing spends an attempt. -/
theorem sendsLeft_unsuccessful {s : Session} (hs : s.Sound) (ho : s.transaction.isSome = true)
    {outcome : Outcome} (h : outcome ≠ .succeeded) :
    (s.react (.resolved outcome)).session.sendsLeft ≤ s.sendsLeft := by
  have hnews := hasNews_unsuccessful hs.distinct h
  have hcover := coverChanges_unsuccessful hs.distinct h
  by_cases hquiet : s.hasNews = false ∧ s.coverChanges = false
  · obtain ⟨hn, hc⟩ := hquiet
    rw [sendsLeft_quiet hn hc, sendsLeft_quiet (hnews.trans hn) (hcover.trans hc),
      isDirty_unsuccessful hs.distinct h, retries_unsuccessful hs.distinct h,
      (answered_frame s outcome).1, ho]
    by_cases hleft : s.outputs.retries + 1 ≤ maxRetries
    · simp only [Option.isSome_none, Bool.false_eq_true, if_false, if_true, hleft, decide_true]
      omega
    · simp [hleft]
  · rw [sendsLeft_of_news hquiet]
    exact sendsLeft_le _

/-! ## Passes -/

/-- A pass sends no more requests than are left, and leaves one less if it sends one. -/
theorem sendsLeft_layout {s : Session} (hs : s.Sound) (accepts : Acceptance) :
    (s.layout accepts).sent.toList.length + (s.layout accepts).session.sendsLeft ≤
      s.sendsLeft := by
  obtain ⟨hnews, hcover, hretries⟩ := s.layout_news accepts
  have hdirty := s.isDirty_refreshed_iff
  by_cases hc : s.computes
  · have ht := (hs.aimed hc.1).1
    have hclean := s.isDirty_aimed
    cases s.layout_ending accepts with
    | waiting ho => exact absurd ho hc.1
    | standingBack h => exact absurd h hc.2.1
    | resting _ _ hdue => simp [hc.2.2] at hdue
    | agreeing _ _ hp hsent =>
        rw [hsent, sendsLeft_of_clean hnews hcover (by rw [hp]; exact ht)
          (by rw [hp]; exact hclean)]
        exact Nat.zero_le _
    | refused _ _ _ _ _ hp hsent =>
        rw [hsent, sendsLeft_of_clean hnews hcover (by rw [hp]; exact ht)
          (by rw [hp]; exact hclean)]
        exact Nat.zero_le _
    | sending r _ _ _ hp hsent =>
        have hopen : (s.layout accepts).session.transaction.isSome = true := by rw [hp]; rfl
        rw [hsent, sendsLeft_quiet hnews hcover, if_pos hopen]
        simp only [Option.toList_some, List.length_singleton]
        by_cases hquiet : s.hasNews = false ∧ s.coverChanges = false
        · -- Without news the pass found a mark, and no request was open.
          have hdue := hc.2.2
          rw [isDue, Bool.and_eq_true, hdirty, hquiet.2] at hdue
          have hmarked : s.outputs.isDirty = true := by simpa using hdue.2
          have hclosed := hs.transaction_eq_none hc.1
          rw [hretries, sendsLeft_quiet hquiet.1 hquiet.2, hclosed, hmarked, hquiet.1]
          simp only [Option.isSome_none, Bool.false_eq_true, if_false, if_true]
          omega
        · rw [sendsLeft_of_news hquiet]
          omega
  · obtain ⟨houtputs, ht, hsent⟩ := layout_of_not_computes hc accepts
    rw [hsent, Option.toList_none, List.length_nil, Nat.zero_add]
    by_cases hquiet : s.hasNews = false ∧ s.coverChanges = false
    · have hsame : s.refreshed.outputs.isDirty = s.outputs.isDirty := by
        rw [Bool.eq_iff_iff, hdirty, hquiet.2]
        simp
      rw [sendsLeft_quiet hnews hcover, sendsLeft_quiet hquiet.1 hquiet.2, hretries, ht, houtputs,
        hsame, hquiet.1]
      simp
    · rw [sendsLeft_of_news hquiet]
      exact sendsLeft_le _

/-! ## Runs -/

theorem sendsLeft_handle {s : Session} (hs : s.Sound) {e : Event} (he : s.Unprompted (.event e)) :
    (s.handle e).session.sendsLeft ≤ s.sendsLeft := by
  rcases e.eq_resolved_or with ⟨outcome, rfl⟩ | hanswer
  · exact sendsLeft_unsuccessful (hs.record _) he.2 he.1
  · have hsame := sendsLeft_react (s := s.record e) he hanswer
    exact Nat.le_of_eq hsame

/-- In a run in which nothing new comes from outside no more requests are sent than are left. -/
theorem length_requests_le {s : Session} (hs : s.Sound) {moves : List Move}
    (hm : s.Throughout Unprompted moves) : (s.requests moves).length ≤ s.sendsLeft := by
  induction moves generalizing s with
  | nil => exact Nat.zero_le _
  | cons m rest ih =>
      have hrest := ih (hs.after m) hm.2
      cases m with
      | event e => exact Nat.le_trans hrest (sendsLeft_handle hs hm.1)
      | pass accepts =>
          rw [requests, List.length_append]
          exact Nat.le_trans (Nat.add_le_add_left hrest _) (sendsLeft_layout hs accepts)

/-- A pass that finds no request open and opens none leaves nothing to send. -/
theorem sendsLeft_of_not_sent {s : Session} (hs : s.Sound) (hready : s.ready = true)
    (ho : s.status ≠ .outstanding) (hc : s.status ≠ .cancelled) {accepts : Acceptance}
    (hstill : (s.layout accepts).session.status ≠ .outstanding) :
    (s.layout accepts).session.sendsLeft = 0 := by
  obtain ⟨hnews, hcover, _⟩ := s.layout_news accepts
  have ht := (hs.aimed ho).1
  have hclean := s.isDirty_aimed
  cases s.layout_ending accepts with
  | waiting h => exact absurd h ho
  | standingBack h => exact absurd h hc
  | resting _ _ hdue hp =>
      rw [isDue, s.refreshed_frame.2.2, hready, Bool.true_and] at hdue
      refine sendsLeft_of_clean hnews hcover ?_ ?_
      · rw [hp]
        exact ht
      · rw [hp]
        exact hdue
  | agreeing _ _ hp =>
      exact sendsLeft_of_clean hnews hcover (by rw [hp]; exact ht) (by rw [hp]; exact hclean)
  | refused _ _ _ _ _ hp =>
      exact sendsLeft_of_clean hnews hcover (by rw [hp]; exact ht) (by rw [hp]; exact hclean)
  | sending _ _ _ _ hp => exact absurd (by rw [hp]) hstill

/-- In a run in which nothing new comes from outside, at most one request more is sent than attempts
may fail. Once the changes were given up and a pass has found no request open and opened none, no
later pass sends one. -/
theorem requests_bounded {s : Session} (hs : s.Reachable) {moves : List Move}
    (hm : s.Throughout Unprompted moves) :
    (s.requests moves).length ≤ maxRetries + 1 ∧
      ∀ (first : List Move) (outcome : Outcome) (between : List Move) (accepts : Acceptance)
        (later : List Move),
        moves = first ++ .event (.resolved outcome) :: (between ++ .pass accepts :: later) →
        (s.run first).GivingUp (.event (.resolved outcome)) →
        let t := s.run (first ++ .event (.resolved outcome) :: between)
        t.status ≠ .outstanding → t.status ≠ .cancelled →
        (t.layout accepts).session.status ≠ .outstanding →
        (t.layout accepts).session.requests later = [] := by
  refine ⟨Nat.le_trans (length_requests_le hs.sound hm) s.sendsLeft_le, ?_⟩
  intro first outcome between accepts later hmoves _ t ho hc hstill
  have ht : ((s.run first).handle (.resolved outcome)).session.run between = t := by
    simp only [t, run_append, run_cons, after]
  have hreach : t.Reachable := hs.run _
  rw [hmoves, throughout_append] at hm
  obtain ⟨_, ⟨_, hopen⟩, hrest⟩ := hm
  have hlater : (t.layout accepts).session.Throughout Unprompted later :=
    ht ▸ (throughout_append.mp hrest).2.2
  have hready : t.ready = true := by
    have hfirst : (s.run first).ready = true := (hs.run first).sound.ready hopen
    exact ht ▸ ready_run (s := ((s.run first).handle (.resolved outcome)).session) hfirst between
  have hnone := sendsLeft_of_not_sent hreach.sound hready ho hc hstill
  have hlength := length_requests_le (hreach.layout accepts).sound hlater
  rw [hnone, Nat.le_zero, List.length_eq_zero_iff] at hlength
  exact hlength

/-- A head is to be moved. -/
def displaced : Session :=
  (start .default ⟨"cfg.toml", true, none⟩ false).run
    [.event (.headArrived ⟨1⟩), .event (.modeArrived ⟨1⟩ ⟨10⟩),
      .event (.modeReported ⟨1⟩ ⟨10⟩ (.size 1920 1080)),
      .event (.headReported ⟨1⟩ (.enabled true)), .event (.headReported ⟨1⟩ (.currentMode ⟨10⟩)),
      .event (.headReported ⟨1⟩ (.position 100 0)), .event (.managerDone 1)]

theorem displaced_reachable : displaced.Reachable := ⟨_, _, _, _, rfl⟩

/-- The compositor lets four requests come to nothing, in either way. -/
def refusals : List Move :=
  [.pass .always, .event (.resolved .failed), .pass .always, .event (.resolved .cancelled),
    .event (.managerDone 2), .pass .always, .pass .always, .event (.resolved .failed),
    .event (.command .getConfig none), .pass .always, .event (.resolved .failed)]

/-- Four requests are sent, and no more by any passes after that. -/
theorem requests_bounded_displaced :
    displaced.Reachable ∧ (displaced.requests refusals).length = maxRetries + 1 ∧
      ∀ passes : List Acceptance,
        (displaced.requests (refusals ++ passes.map .pass)).length ≤ maxRetries + 1 ∧
        ((displaced.run refusals).layout .always).session.requests (passes.map .pass) = [] := by
  have attempts : displaced.Throughout Unprompted refusals :=
    ⟨trivial, ⟨by decide, by decide⟩, trivial, ⟨by decide, by decide⟩, trivial, trivial, trivial,
      ⟨by decide, by decide⟩, trivial, trivial, ⟨by decide, by decide⟩, trivial⟩
  have idle (t : Session) (passes : List Acceptance) :
      t.Throughout Unprompted (passes.map .pass) := by
    induction passes generalizing t with
    | nil => trivial
    | cons accepts rest ih => exact ⟨trivial, ih _⟩
  refine ⟨displaced_reachable, by decide, fun passes => ⟨?_, ?_⟩⟩
  · exact (requests_bounded displaced_reachable
      (throughout_append.mpr ⟨attempts, idle _ passes⟩)).1
  · have hall : displaced.Throughout Unprompted (refusals ++ (.always :: passes).map .pass) :=
      throughout_append.mpr ⟨attempts, idle _ _⟩
    have hgiven : ((displaced.run (refusals.take 10)).handle
        (.resolved .failed)).session.abandoned = true := by decide
    exact (requests_bounded displaced_reachable hall).2 (refusals.take 10) .failed [] .always
      (passes.map .pass) rfl hgiven (by decide) (by decide) (by decide)

end OutputArranger.Session
