import OutputArranger.Proofs.Outputs
import OutputArranger.Session.Basic

/-!
# What one event can do

An event that is no answer to a request leaves the open request alone, and of the heads it can
only add a new one without a part in the request, or take one away. An answer closes the request.
-/

namespace OutputArranger

namespace Head

@[simp] theorem stake_reported (h : Head) (r : HeadReport) : (h.reported r).stake = h.stake := by
  cases r <;> rfl

end Head

/-- Whether an event is the compositor's answer to a request. -/
def Event.isAnswer : Event → Bool
  | .resolved _ => true
  | _ => false

theorem Event.eq_resolved_or (e : Event) :
    (∃ outcome, e = .resolved outcome) ∨ e.isAnswer = false := by
  cases e with
  | resolved outcome => exact Or.inl ⟨outcome, rfl⟩
  | _ => exact Or.inr rfl

namespace Session

section Views

/-! What an event changes in a head, said for any view of heads that does not show it. -/

variable {α : Type} {g : Head → α}

theorem view_arriveMode
    (hg : ∀ (h : Head) (modes : List Mode) (dirty : Bool),
      g { h with modes := modes, dirty := dirty } = g h)
    (m : ModeId) (h : Head) : g (arriveMode m h) = g h := by
  unfold arriveMode Head.addMode
  split
  · exact hg h h.modes _
  · exact hg h _ _

theorem view_reportMode
    (hg : ∀ (h : Head) (modes : List Mode) (preferred : Option ModeId),
      g { h with modes := modes, preferredMode := preferred } = g h)
    (m : ModeId) (r : ModeReport) (h : Head) : g (reportMode m r h) = g h := by
  cases r with
  | preferred =>
      simp only [reportMode, Head.setPreferred]
      split
      · exact hg h _ _
      · rfl
  | size width height => exact hg h _ h.preferredMode
  | refresh rate => exact hg h _ h.preferredMode

theorem view_finishMode
    (hg : ∀ (h : Head) (modes : List Mode) (current preferred : Option ModeId) (desired : Desired)
      (failed : List ModeId) (dirty : Bool),
      g { h with
        modes := modes
        currentMode := current
        preferredMode := preferred
        desired := desired
        failedModes := failed
        dirty := dirty } = g h)
    (m : ModeId) (h : Head) : g (finishMode m h) = g h := by
  unfold finishMode
  split
  · rename_i hknown
    rw [Head.removeMode, if_pos hknown]
    exact hg h _ _ _ _ _ _
  · rfl

theorem view_coverHead
    (hg : ∀ (h : Head) (lid dirty : Bool), g { h with lidClosed := lid, dirty := dirty } = g h)
    (c : Config) (lid : Option Bool) (h : Head) : g (coverHead c lid h) = g h := by
  unfold coverHead
  split
  · rfl
  · exact hg h _ _

end Views

@[simp] theorem stake_arriveMode (m : ModeId) (h : Head) : (arriveMode m h).stake = h.stake :=
  view_arriveMode (fun _ _ _ => rfl) m h

@[simp] theorem stake_reportMode (m : ModeId) (r : ModeReport) (h : Head) :
    (reportMode m r h).stake = h.stake :=
  view_reportMode (fun _ _ _ => rfl) m r h

@[simp] theorem stake_finishMode (m : ModeId) (h : Head) : (finishMode m h).stake = h.stake :=
  view_finishMode (fun _ _ _ _ _ _ _ => rfl) m h

@[simp] theorem stake_coverHead (c : Config) (lid : Option Bool) (h : Head) :
    (coverHead c lid h).stake = h.stake :=
  view_coverHead (fun _ _ _ => rfl) c lid h

@[simp] theorem stakes_coverHeads (s : Session) : s.coverHeads.outputs.stakes = s.outputs.stakes :=
  Outputs.stakes_mapHeads (stake_coverHead s.config s.lidClosed) s.outputs

/-! ## Events -/

/-- What an event that does not come from the compositor can make of a session. -/
inductive FromOutside (s : Session) (e : Event) (t : Session) : Prop
  | ignored : t = s → FromOutside s e t
  | adopting (c : Config) (clients : List Ticket) :
      t = { s.adopt c with awaiting := s.awaiting ++ clients } → FromOutside s e t
  | writing (client : Option Ticket) : e = .command .writeConfig client →
      t = { s with configFile := s.configFile.write s.config } → FromOutside s e t
  /-- The lid moves and covers the heads that it covered before. -/
  | moving (closed : Bool) : t = ({ s with lidClosed := some closed } : Session).coverHeads →
      FromOutside s e t
  | covering (closed : Bool) :
      t = ({ s with lidClosed := some closed } : Session).coverHeads.noteUserChange →
      FromOutside s e t

theorem fromOutside_configChanged (s : Session) (c : Config) :
    FromOutside s (.configChanged c) (s.react (.configChanged c)).session := by
  simp only [react, changeConfig]
  split
  · exact .ignored rfl
  · refine .adopting c [] ?_
    rw [List.append_nil]
    rfl

theorem fromOutside_lidChanged (s : Session) (closed : Bool) :
    FromOutside s (.lidChanged closed) (s.react (.lidChanged closed)).session := by
  simp only [react, changeLid]
  split
  · exact .ignored rfl
  · simp only [quiet]
    split
    · exact .covering closed rfl
    · exact .moving closed rfl

theorem fromOutside_command (s : Session) (r : ControlRequest) (client : Option Ticket) :
    FromOutside s (.command r client) (s.react (.command r client)).session := by
  cases r with
  | getConfig => exact .ignored rfl
  | apply command =>
      simp only [react, control]
      split
      · rename_i c _
        exact .adopting c client.toList rfl
      · exact .ignored rfl
  | writeConfig =>
      simp only [react, control]
      split
      · exact .writing client rfl rfl
      · exact .ignored rfl

/-- What such an event leaves alone. -/
structure Untouched (s t : Session) : Prop where
  status : t.status = s.status
  transaction : t.transaction = s.transaction
  recording : t.recording = s.recording
  ready : t.ready = s.ready
  arrived : t.outputs.arrived = s.outputs.arrived
  serial : t.outputs.serial = s.outputs.serial

theorem FromOutside.untouched {s t : Session} {e : Event} (h : FromOutside s e t) :
    Untouched s t := by
  cases h with
  | ignored ht => subst ht; exact ⟨rfl, rfl, rfl, rfl, rfl, rfl⟩
  | adopting c clients ht => subst ht; exact ⟨rfl, rfl, rfl, rfl, rfl, rfl⟩
  | writing client _ ht => subst ht; exact ⟨rfl, rfl, rfl, rfl, rfl, rfl⟩
  | moving closed ht => subst ht; exact ⟨rfl, rfl, rfl, rfl, rfl, rfl⟩
  | covering closed ht => subst ht; exact ⟨rfl, rfl, rfl, rfl, rfl, rfl⟩

/-- The parts of a session on which only answers and passes have a say. -/
theorem react_frame {s : Session} {e : Event} (he : e.isAnswer = false) :
    (s.react e).session.status = s.status ∧
      (s.react e).session.transaction = s.transaction ∧
      (s.ready = true → (s.react e).session.ready = true) := by
  have outside {t : Session} (h : FromOutside s e t) :
      t.status = s.status ∧ t.transaction = s.transaction ∧ (s.ready = true → t.ready = true) :=
    ⟨h.untouched.status, h.untouched.transaction, h.untouched.ready.trans⟩
  cases e with
  | resolved outcome => simp [Event.isAnswer] at he
  | managerDone serial => exact ⟨rfl, rfl, fun _ => rfl⟩
  | configChanged c => exact outside (s.fromOutside_configChanged c)
  | lidChanged closed => exact outside (s.fromOutside_lidChanged closed)
  | command r client => exact outside (s.fromOutside_command r client)
  | _ => exact ⟨rfl, rfl, id⟩

/-- An event that is no answer leaves every part in the open request as it is. A head that arrives
has none. -/
theorem stakes_react {s : Session} {e : Event} (he : e.isAnswer = false) :
    (s.react e).session.outputs.stakes.Sublist s.outputs.stakes ∨
      ∃ id, id ∉ s.outputs.ids ∧
        (s.react e).session.outputs.stakes = s.outputs.stakes ++ [(id, Pending.none)] := by
  have same {o : Outputs} (h : o.stakes = s.outputs.stakes) : o.stakes.Sublist s.outputs.stakes :=
    h ▸ List.Sublist.refl _
  have outside {t : Session} (h : FromOutside s e t) : t.outputs.stakes = s.outputs.stakes := by
    cases h with
    | ignored ht => subst ht; rfl
    | adopting c clients ht => subst ht; rfl
    | writing client _ ht => subst ht; rfl
    | moving closed ht => subst ht; exact stakes_coverHeads { s with lidClosed := some closed }
    | covering closed ht => subst ht; exact stakes_coverHeads { s with lidClosed := some closed }
  cases e with
  | resolved outcome => simp [Event.isAnswer] at he
  | headArrived id =>
      rcases s.outputs.stakes_addHead id with h | ⟨hnew, h⟩
      · exact Or.inl (same h)
      · exact Or.inr ⟨id, hnew, h⟩
  | headReported id r =>
      exact Or.inl (same (Outputs.stakes_updateHead (fun h => h.stake_reported r) id s.outputs))
  | headFinished id => exact Or.inl (s.outputs.stakes_removeHead_sublist id)
  | modeArrived id m =>
      exact Or.inl (same (Outputs.stakes_updateHead (stake_arriveMode m) id s.outputs))
  | modeReported id m r =>
      exact Or.inl (same (Outputs.stakes_updateHead (stake_reportMode m r) id s.outputs))
  | modeFinished id m =>
      exact Or.inl (same (Outputs.stakes_updateHead (stake_finishMode m) id s.outputs))
  | managerDone serial => exact Or.inl (same rfl)
  | managerFinished => exact Or.inl (same rfl)
  | configChanged c => exact Or.inl (same (outside (s.fromOutside_configChanged c)))
  | lidChanged closed => exact Or.inl (same (outside (s.fromOutside_lidChanged closed)))
  | command r client => exact Or.inl (same (outside (s.fromOutside_command r client)))

end Session

/-! ## Answers -/

theorem Transaction.stakes_resolve (o : Outputs) (modeChange : Option (HeadId × ModeId))
    (outcome : Outcome) :
    (Transaction.resolve o modeChange outcome).1.stakes = o.ids.map fun id => (id, .none) := by
  have base : o.resetPending.stakes = o.ids.map fun id => (id, Pending.none) := by simp
  have closed (p : Outputs) (hp : p.stakes = o.resetPending.stakes) :
      (if p.countRetry.mayRetry then ({ p.countRetry with dirty := true }, true)
        else (p.countRetry.resetDirty, false)).1.stakes = o.resetPending.stakes := by
    split
    · exact hp
    · exact p.countRetry.stakes_resetDirty.trans hp
  rw [← base]
  cases outcome with
  | succeeded =>
      cases modeChange with
      | none => rfl
      | some change =>
          exact Outputs.stakes_updateHead (f := fun h => { h with currentMode := some change.2 })
            (fun _ => rfl) change.1 _
  | failed =>
      cases modeChange with
      | none => exact closed o.resetPending rfl
      | some change =>
          exact closed (o.resetPending.updateHead change.1 (failMode change.2))
            (Outputs.stakes_updateHead (f := failMode change.2) (fun _ => rfl) change.1 _)
  | cancelled => exact closed o.resetPending rfl

/-- A head once its part in a request has been carried out. Only a change of mode is taken for
granted; the rest is for the compositor to report. -/
def Transaction.settled (modeChange : Option (HeadId × ModeId)) (h : Head) : Head :=
  { h with
    pending := .none
    currentMode := match modeChange with
      | none => h.currentMode
      | some (id, m) => if h.id = id then some m else h.currentMode }

theorem Transaction.settled_of_ne {modeChange : Option (HeadId × ModeId)} {h : Head}
    (hother : ∀ m, modeChange ≠ some (h.id, m)) :
    settled modeChange h = { h with pending := .none } := by
  obtain _ | ⟨id, m⟩ := modeChange
  · rfl
  · have hid : h.id ≠ id := fun hid => hother m (hid ▸ rfl)
    simp only [settled, hid, if_false]

namespace Session

/-- An answer leaves no part of any head in a request. -/
theorem stakes_react_resolved (s : Session) (outcome : Outcome) :
    (s.react (.resolved outcome)).session.outputs.stakes =
      s.outputs.ids.map fun id => (id, .none) :=
  Transaction.stakes_resolve s.outputs _ outcome

/-- The session after a request was carried out. -/
def succeeded (s : Session) : Session := (s.react (.resolved .succeeded)).session

theorem abandoned_succeeded (s : Session) : s.succeeded.abandoned = false := by
  simp only [succeeded, react, resolve, quiet, Transaction.resolve]
  split <;> rfl

theorem outputs_succeeded {s : Session} (h : s.outputs.ids.Nodup) :
    s.succeeded.outputs =
      { s.outputs with
        heads := s.outputs.heads.map (Transaction.settled (s.transaction.bind (·.modeChange)))
        retries := 0 } := by
  simp only [succeeded, react, resolve, quiet, Transaction.resolve]
  split
  · rename_i hm
    simp only [Outputs.resetPending, Outputs.mapHeads, hm]
    rfl
  · rename_i id m hm
    have hids : s.outputs.resetPending.ids.Nodup := by
      simp only [Outputs.ids, Outputs.resetPending, Outputs.mapHeads, List.map_map]
      exact h
    have hheads := Outputs.heads_updateHead hids id fun a => { a with currentMode := some m }
    have hsettled : (s.outputs.resetPending.heads.map fun a =>
          if a.id = id then { a with currentMode := some m } else a) =
        s.outputs.heads.map (Transaction.settled (some (id, m))) := by
      simp only [Outputs.resetPending, Outputs.mapHeads, List.map_map]
      apply List.map_congr_left
      intro a _
      by_cases ha : a.id = id <;> simp [Transaction.settled, ha]
    rw [hsettled] at hheads
    rw [hm, ← hheads]
    rfl

/-- Success marks nothing as changed, and wipes no mark out. -/
theorem isDirty_succeeded {s : Session} (hs : s.outputs.ids.Nodup) :
    s.succeeded.outputs.isDirty = s.outputs.isDirty := by
  have hout := outputs_succeeded hs
  refine Outputs.isDirty_congr (by rw [hout]) ?_
  rw [hout, List.map_map]
  rfl

end Session

end OutputArranger
