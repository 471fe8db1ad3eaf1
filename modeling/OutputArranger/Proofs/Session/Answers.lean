import OutputArranger.Proofs.Session.FailuresInRow

/-!
# Who is answered when

A client whose change is taken over waits for the layout to settle; every other client is answered
while its request is handled. The clients that wait are answered all at once, in the order in which
they came, by the first pass that leaves no request open. A pass that stands back after a cancelled
request, or whose request the compositor does not take, lets them wait on.
-/

namespace OutputArranger.Session

variable {s : Session}

/-- Whether a control request is a change that the session takes over. -/
def admits (s : Session) : ControlRequest → Bool
  | .apply command => (s.config.apply command).isOk
  | _ => false

theorem admits_apply {command : ConfigCommand} :
    s.admits (.apply command) = true ↔ ∃ c, s.config.apply command = .ok c := by
  rw [admits]
  cases s.config.apply command <;> simp [Except.isOk, Except.toBool]

/-- The client that has to wait from this move on, if there is one. -/
def newcomer (s : Session) : Move → List Ticket
  | .event (.command r client) => if s.admits r then client.toList else []
  | _ => []

/-- The clients that came in a run and had to wait, in the order in which they came. -/
def newcomers (s : Session) : List Move → List Ticket
  | [] => []
  | m :: rest => s.newcomer m ++ (s.after m).newcomers rest

/-- The answers of the passes of a run, the earliest first. -/
def passReplies (s : Session) : List Move → List (Ticket × Reply)
  | [] => []
  | .event e :: rest => (s.handle e).session.passReplies rest
  | .pass accepts :: rest =>
      (s.layout accepts).replies ++ (s.layout accepts).session.passReplies rest

/-! ## Events -/

/-- A change that is taken over is answered later, and everything else at once. -/
theorem replies_control (s : Session) (r : ControlRequest) (client : Option Ticket) :
    (s.admits r = true → (s.control r client).replies = [] ∧
        (s.control r client).session.awaiting = s.awaiting ++ client.toList) ∧
      (s.admits r = false → (∃ reply, (s.control r client).replies = client.toList.map (·, reply)) ∧
        (s.control r client).session.awaiting = s.awaiting) := by
  have answered (reply : Reply) : answer client reply = client.toList.map (·, reply) := by
    cases client <;> rfl
  cases r with
  | getConfig => exact ⟨by simp [admits], fun _ => ⟨⟨_, answered _⟩, rfl⟩⟩
  | apply command =>
      cases happly : s.config.apply command with
      | ok c =>
          refine ⟨fun _ => ?_, fun hnot => ?_⟩
          · simp only [control, happly]
            exact ⟨rfl, rfl⟩
          · simp [admits_apply.mpr ⟨c, happly⟩] at hnot
      | error refusal =>
          refine ⟨fun htaken => ?_, fun _ => ?_⟩
          · simp [admits_apply, happly] at htaken
          · simp only [control, happly]
            exact ⟨⟨_, answered _⟩, trivial⟩
  | writeConfig =>
      refine ⟨by simp [admits], fun _ => ?_⟩
      simp only [control]
      split
      · exact ⟨⟨_, answered _⟩, rfl⟩
      · exact ⟨⟨_, answered _⟩, rfl⟩

/-- Nothing but a control request is answered by an event, or makes anybody wait. -/
theorem replies_react {e : Event} (he : ∀ r client, e ≠ .command r client) :
    (s.react e).replies = [] ∧ (s.react e).session.awaiting = s.awaiting := by
  cases e with
  | configChanged c =>
      simp only [react, changeConfig]
      split <;> exact ⟨rfl, rfl⟩
  | lidChanged closed =>
      simp only [react, changeLid]
      split
      · exact ⟨rfl, rfl⟩
      · refine ⟨rfl, ?_⟩
        simp only [quiet]
        split <;> rfl
  | command r client => exact absurd rfl (he r client)
  | _ => exact ⟨rfl, rfl⟩

theorem awaiting_handle (s : Session) (e : Event) :
    (s.handle e).session.awaiting = s.awaiting ++ s.newcomer (.event e) := by
  have other (he : ∀ r client, e ≠ .command r client) (hnone : s.newcomer (.event e) = []) :
      (s.handle e).session.awaiting = s.awaiting ++ s.newcomer (.event e) := by
    rw [hnone, List.append_nil]
    exact (replies_react (s := s.record e) he).2
  cases e with
  | command r client =>
      obtain ⟨htaken, hother⟩ := replies_control (s.record (.command r client)) r client
      cases hadmits : s.admits r with
      | true =>
          rw [newcomer, hadmits, if_pos rfl]
          exact (htaken hadmits).2
      | false =>
          rw [newcomer, hadmits, if_neg (by simp), List.append_nil]
          exact (hother hadmits).2
  | _ => exact other (by simp) rfl

/-! ## Passes -/

/-- A pass answers everybody who waits, all the same, or nobody. -/
inductive Replying (s : Session) (p : Pass) : Prop where
  | answering : p.error = none → p.session.status ≠ .outstanding → s.status ≠ .cancelled →
      p.replies = s.awaiting.map (·, p.session.settledReply) → p.session.awaiting = [] →
      Replying s p
  | silent : (p.error ≠ none ∨ p.session.status = .outstanding ∨ s.status = .cancelled) →
      p.replies = [] → p.session.awaiting = s.awaiting → Replying s p

theorem awaiting_refreshed (s : Session) : s.refreshed.awaiting = s.awaiting := by
  unfold refreshed
  split <;> rfl

theorem arrange_replying {accepts : Acceptance} (hc : s.status ≠ .cancelled) (log : List Notice) :
    Replying s (({ s.refreshed with status := .idle }).arrange accepts log) := by
  have hsame := s.awaiting_refreshed
  unfold arrange
  split
  · dsimp only
    split
    · rename_i r _
      unfold send
      dsimp only
      split
      · exact .silent (Or.inl (by simp)) rfl hsame
      · exact .silent (Or.inr (Or.inl rfl)) rfl hsame
    · exact .answering rfl (by simp [settle, desire]) hc (hsame ▸ rfl) rfl
  · exact .answering rfl (by simp [settle]) hc (hsame ▸ rfl) rfl

theorem layout_replying (s : Session) (accepts : Acceptance) : Replying s (s.layout accepts) := by
  have hstatus := s.refreshed_frame.1
  have hsame := s.awaiting_refreshed
  unfold layout
  cases h : s.status <;> simp only [hstatus, h]
  · exact arrange_replying (by simp [h]) _
  · exact .silent (Or.inr (Or.inl (hstatus.trans h))) rfl hsame
  · exact arrange_replying (by simp [h]) _
  · exact arrange_replying (by simp [h]) _
  · exact .silent (Or.inr (Or.inr h)) rfl hsame

/-! ## Runs -/

/-- Everybody who waited at first or came later has been answered, or waits still. Nobody is
answered before those who came earlier. -/
theorem awaiting_run (s : Session) (moves : List Move) :
    s.awaiting ++ s.newcomers moves =
      (s.passReplies moves).map Prod.fst ++ (s.run moves).awaiting := by
  induction moves generalizing s with
  | nil => exact List.append_nil _
  | cons m rest ih =>
      have hrest := ih (s.after m)
      cases m with
      | event e =>
          rw [after, awaiting_handle, List.append_assoc] at hrest
          exact hrest
      | pass accepts =>
          have hnobody : s.newcomer (.pass accepts) = [] := rfl
          rw [newcomers, hnobody, List.nil_append, passReplies, List.map_append, List.append_assoc,
            run_cons]
          cases layout_replying s accepts with
          | answering _ _ _ hreplies hnone =>
              rw [after, hnone, List.nil_append] at hrest
              rw [after, hrest, hreplies, List.map_map]
              congr 1
              exact (List.map_id _).symm
          | silent _ hreplies hsame =>
              rw [after, hsame] at hrest
              rw [hreplies]
              exact hrest

/-- A change that is taken over marks the outputs, and no failure before it counts any more. -/
theorem outputs_of_admits {command : ConfigCommand} (hs : s.admits (.apply command) = true)
    (client : Option Ticket) :
    (s.handle (.command (.apply command) client)).session.outputs =
      { s.outputs with dirty := true, retries := 0 } := by
  obtain ⟨c, happly⟩ := admits_apply.mp hs
  have hrecorded : (s.record (.command (.apply command) client)).config.apply command = .ok c :=
    happly
  simp only [handle, react, control, hrecorded]
  rfl

/-- A client is told of a failure only if the session has given up. -/
theorem retries_of_failure {accepts : Acceptance} {client : Ticket} {message : String}
    (hs : s.Reachable) (hm : (client, Reply.failure message) ∈ (s.layout accepts).replies) :
    maxRetries < s.outputs.retries := by
  cases layout_replying s accepts with
  | silent _ hnone => simp [hnone] at hm
  | answering _ _ _ hreplies =>
      rw [hreplies, List.mem_map] at hm
      obtain ⟨_, _, heq⟩ := hm
      have hgiven : (s.layout accepts).session.abandoned = true := by
        by_contra hnot
        simp [settledReply, hnot] at heq
      rw [s.abandoned_layout accepts, hs.abandoned_eq] at hgiven
      split at hgiven
      · contradiction
      · exact of_decide_eq_true hgiven

/-- In every session to which a run leads, a change that is taken over makes its client wait, and
any other control request is answered once while it is handled; nothing else that is handled is
answered at all. A pass without an error that ends without an open request, and did not begin with a
cancelled one, gives everybody who waits the same answer, in the order in which they came; any other
pass answers nobody. So those who had to wait are those who were answered by passes, once each and
in order, followed by those who still wait. They are told of a failure only if more requests than
are allowed have come to nothing, with no success between, since the last change was taken over. -/
theorem commands_answered (config : Config) (file : ConfigFile) (recorded : Bool)
    (moves : List Move) :
    let first := start config file recorded
    let s := first.run moves
    (∀ r client, s.admits r = false →
        (∃ reply, (s.handle (.command r client)).replies = client.toList.map (·, reply)) ∧
          (s.handle (.command r client)).session.awaiting = s.awaiting) ∧
      (∀ r client, s.admits r = true →
        (s.handle (.command r client)).replies = [] ∧
          (s.handle (.command r client)).session.awaiting = s.awaiting ++ client.toList) ∧
      (∀ e, (∀ r client, e ≠ .command r client) →
        (s.handle e).replies = [] ∧ (s.handle e).session.awaiting = s.awaiting) ∧
      (∀ accepts,
        let p := s.layout accepts
        (p.error = none → p.session.status ≠ .outstanding → s.status ≠ .cancelled →
            (∃ reply, p.replies = s.awaiting.map (·, reply)) ∧ p.session.awaiting = []) ∧
          (p.error ≠ none ∨ p.session.status = .outstanding ∨ s.status = .cancelled →
            p.replies = [] ∧ p.session.awaiting = s.awaiting)) ∧
      first.newcomers moves = (first.passReplies moves).map Prod.fst ++ s.awaiting ∧
      ∀ accepts client message, (client, .failure message) ∈ (s.layout accepts).replies →
        ∀ earlier command waiting later,
          moves = earlier ++ .event (.command (.apply command) waiting) :: later →
          (first.run earlier).admits (.apply command) = true →
          ∃ before last, later = before ++ last ∧ Move.event (.resolved .succeeded) ∉ last ∧
            maxRetries + 1 ≤ last.countP Move.isFailure := by
  intro first s
  have hs : s.Reachable := ⟨config, file, recorded, moves, rfl⟩
  refine ⟨fun r client => (replies_control (s.record (.command r client)) r client).2,
    fun r client => (replies_control (s.record (.command r client)) r client).1,
    fun e => replies_react (s := s.record e), ?_, awaiting_run first moves, ?_⟩
  · intro accepts p
    cases layout_replying s accepts with
    | answering hok hclosed hnot hreplies hnone =>
        refine ⟨fun _ _ _ => ⟨⟨_, hreplies⟩, hnone⟩, ?_⟩
        rintro (h | h | h)
        · exact absurd hok h
        · exact absurd h hclosed
        · exact absurd h hnot
    | silent hopen hnobody hsame =>
        refine ⟨fun hok hclosed hnot => ?_, fun _ => ⟨hnobody, hsame⟩⟩
        rcases hopen with h | h | h
        · exact absurd hok h
        · exact absurd h hclosed
        · exact absurd h hnot
  · intro accepts client message hm earlier command waiting later hmoves hadmits
    have hspent := retries_of_failure hs hm
    have hearlier : (first.run earlier).Reachable := ⟨config, file, recorded, earlier, rfl⟩
    have hrun : s = ((first.run earlier).handle
        (.command (.apply command) waiting)).session.run later := by
      simp only [s, hmoves, run_append, run_cons, after]
    have hanew := congrArg Outputs.retries (outputs_of_admits hadmits waiting)
    obtain ⟨before, last, hlater, hno, hcounted⟩ :=
      exists_failures (hearlier.sound.handle _) hanew later
    exact ⟨before, last, hlater, hno, Nat.le_trans hspent (hrun ▸ hcounted)⟩

end OutputArranger.Session
