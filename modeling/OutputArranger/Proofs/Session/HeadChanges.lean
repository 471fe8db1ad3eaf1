import OutputArranger.Proofs.Session.OpenRequest
import OutputArranger.Proofs.Session.Refusal

/-!
# How one head changes

Apart from heads that arrive and leave, an event changes every head by itself: the one that it is
about, those that the lid covers or uncovers, and after an answer all of them. A head that arrives
is blank, and one that leaves is gone with all that was known of it.
-/

namespace OutputArranger

/-- By an event a head comes, a head goes, or the heads remain the same. -/
inductive Event.Traffic : Event → Prop
  | coming (id : HeadId) : Traffic (.headArrived id)
  | going (id : HeadId) : Traffic (.headFinished id)
  | staying {e : Event} (harrived : ∀ id, e ≠ .headArrived id)
      (hfinished : ∀ id, e ≠ .headFinished id) : Traffic e

theorem Event.traffic (e : Event) : e.Traffic := by
  cases e with
  | headArrived id => exact .coming id
  | headFinished id => exact .going id
  | _ => exact .staying (by simp) (by simp)

/-- Which head it is, and whether it was warned of that it lacks a mode. -/
def Head.caution (h : Head) : HeadId × Bool := (h.id, h.warnedNoMode)

namespace Session

open Transaction (settled undone)

/-- What a head becomes by an event, if it stays. -/
def acted (s : Session) (e : Event) (h : Head) : Head :=
  match e with
  | .headReported id r => if h.id = id then h.reported r else h
  | .modeArrived id m => if h.id = id then arriveMode m h else h
  | .modeReported id m r => if h.id = id then reportMode m r h else h
  | .modeFinished id m => if h.id = id then finishMode m h else h
  | .resolved outcome =>
      let modeChange := s.transaction.bind (·.modeChange)
      if outcome = .succeeded then settled modeChange h
      else if s.outputs.retries + 1 ≤ maxRetries then undone outcome modeChange h
      else { undone outcome modeChange h with dirty := false }
  | .lidChanged closed =>
      if s.lidClosed = some closed then h else coverHead s.config (some closed) h
  | _ => h

variable {s : Session} {e : Event}

/-- The ways in which an event can act on a head. -/
inductive Effect (s : Session) (e : Event) (h : Head) : Prop
  | untouched : s.acted e h = h → Effect s e h
  | reported (r : HeadReport) : e = .headReported h.id r → s.acted e h = h.reported r → Effect s e h
  | modeArrived (m : ModeId) : e = .modeArrived h.id m → s.acted e h = arriveMode m h → Effect s e h
  | modeReported (m : ModeId) (r : ModeReport) : e = .modeReported h.id m r →
      s.acted e h = reportMode m r h → Effect s e h
  | modeFinished (m : ModeId) : e = .modeFinished h.id m →
      s.acted e h = finishMode m h → Effect s e h
  | covered (closed : Bool) : e = .lidChanged closed →
      s.acted e h = coverHead s.config (some closed) h → Effect s e h
  | settled : e = .resolved .succeeded →
      s.acted e h = settled (s.transaction.bind (·.modeChange)) h → Effect s e h
  | undone (outcome : Outcome) : e = .resolved outcome →
      s.acted e h = undone outcome (s.transaction.bind (·.modeChange)) h → Effect s e h
  | givenUp (outcome : Outcome) : e = .resolved outcome →
      s.acted e h =
        { undone outcome (s.transaction.bind (·.modeChange)) h with dirty := false } → Effect s e h

theorem effect (s : Session) (e : Event) (h : Head) : Effect s e h := by
  have other {id : HeadId} {f : Head → Head} (hid : ¬ h.id = id) :
      (if h.id = id then f h else h) = h := if_neg hid
  have self {id : HeadId} {f : Head → Head} (hid : h.id = id) :
      (if h.id = id then f h else h) = f h := if_pos hid
  cases e with
  | headReported id r =>
      by_cases hid : h.id = id
      · exact .reported r (hid ▸ rfl) (self (f := (·.reported r)) hid)
      · exact .untouched (other (f := (·.reported r)) hid)
  | modeArrived id m =>
      by_cases hid : h.id = id
      · exact .modeArrived m (hid ▸ rfl) (self hid)
      · exact .untouched (other hid)
  | modeReported id m r =>
      by_cases hid : h.id = id
      · exact .modeReported m r (hid ▸ rfl) (self hid)
      · exact .untouched (other hid)
  | modeFinished id m =>
      by_cases hid : h.id = id
      · exact .modeFinished m (hid ▸ rfl) (self hid)
      · exact .untouched (other hid)
  | lidChanged closed =>
      by_cases hsame : s.lidClosed = some closed
      · exact .untouched (if_pos hsame)
      · exact .covered closed rfl (if_neg hsame)
  | resolved outcome =>
      by_cases hsuccess : outcome = .succeeded
      · exact .settled (hsuccess ▸ rfl) (if_pos hsuccess)
      · by_cases hleft : s.outputs.retries + 1 ≤ maxRetries
        · exact .undone outcome rfl ((if_neg hsuccess).trans (if_pos hleft))
        · exact .givenUp outcome rfl ((if_neg hsuccess).trans (if_neg hleft))
  | _ => exact .untouched rfl

/-- No event changes which head a head is, or wipes out that a warning about it was given. -/
theorem caution_acted (s : Session) (e : Event) (h : Head) : (s.acted e h).caution = h.caution := by
  have hundone (outcome : Outcome) := Transaction.view_undone (g := Head.caution)
    (fun _ _ _ _ => rfl) outcome (s.transaction.bind (·.modeChange)) h
  cases s.effect e h with
  | untouched hg => rw [hg]
  | reported r _ hg =>
      rw [hg]
      cases r <;> rfl
  | modeArrived m _ hg => exact hg ▸ view_arriveMode (fun _ _ _ => rfl) m h
  | modeReported m r _ hg => exact hg ▸ view_reportMode (fun _ _ _ => rfl) m r h
  | modeFinished m _ hg => exact hg ▸ view_finishMode (fun _ _ _ _ _ _ _ => rfl) m h
  | covered closed _ hg => exact hg ▸ view_coverHead (fun _ _ _ => rfl) _ _ h
  | settled _ hg => rw [hg]; rfl
  | undone outcome _ hg => rw [hg, hundone]
  | givenUp outcome _ hg => exact hg ▸ hundone outcome

theorem id_acted (s : Session) (e : Event) (h : Head) : (s.acted e h).id = h.id :=
  congrArg Prod.fst (s.caution_acted e h)

theorem heads_answered (hids : s.outputs.ids.Nodup) (outcome : Outcome) :
    (s.react (.resolved outcome)).session.outputs.heads =
      s.outputs.heads.map (s.acted (.resolved outcome)) := by
  by_cases hsuccess : outcome = .succeeded
  · have hact : s.acted (.resolved outcome) = settled (s.transaction.bind (·.modeChange)) :=
      funext fun h => by simp only [acted, hsuccess, if_true]
    rw [hact, hsuccess]
    exact congrArg Outputs.heads (outputs_succeeded hids)
  · rw [outputs_unsuccessful hids hsuccess]
    by_cases hleft : s.outputs.retries + 1 ≤ maxRetries
    · have hact : s.acted (.resolved outcome) =
          undone outcome (s.transaction.bind (·.modeChange)) :=
        funext fun h => by simp only [acted, hsuccess, hleft, if_true, if_false]
      rw [hact]
      simp only [hleft, if_true]
      rfl
    · have hact (h : Head) : s.acted (.resolved outcome) h =
          { undone outcome (s.transaction.bind (·.modeChange)) h with dirty := false } := by
        simp only [acted, hsuccess, hleft, if_false]
      simp only [hleft, if_false, Outputs.resetDirty, Transaction.attempted, List.map_map]
      exact List.map_congr_left fun h _ => (hact h).symm

/-- An event with which no head comes or goes acts on each head by itself. -/
theorem heads_react (hids : s.outputs.ids.Nodup) (harrived : ∀ id, e ≠ .headArrived id)
    (hfinished : ∀ id, e ≠ .headFinished id) :
    (s.react e).session.outputs.heads = s.outputs.heads.map (s.acted e) := by
  have same {t : Session} (ht : t.outputs.heads = s.outputs.heads) (hact : s.acted e = id) :
      t.outputs.heads = s.outputs.heads.map (s.acted e) := by
    rw [ht, hact, List.map_id]
  have updated (id : HeadId) (f : Head → Head) :
      (s.updateHead id f).outputs.heads =
        s.outputs.heads.map fun a => if a.id = id then f a else a :=
    Outputs.heads_updateHead hids id f
  cases e with
  | headArrived id => exact absurd rfl (harrived id)
  | headFinished id => exact absurd rfl (hfinished id)
  | headReported id r => exact updated id _
  | modeArrived id m => exact updated id _
  | modeReported id m r => exact updated id _
  | modeFinished id m => exact updated id _
  | managerDone serial => exact same rfl rfl
  | managerFinished => exact same rfl rfl
  | resolved outcome => exact heads_answered hids outcome
  | configChanged c =>
      refine same ?_ rfl
      simp only [react, changeConfig]
      split <;> rfl
  | lidChanged closed =>
      by_cases hsame : s.lidClosed = some closed
      · refine same ?_ (funext fun h => by simp only [acted, hsame, if_true, id])
        simp only [react, changeLid, hsame, if_true]
        rfl
      · have hcover : s.acted (.lidChanged closed) = coverHead s.config (some closed) :=
          funext fun h => by simp only [acted, hsame, if_false]
        rw [hcover]
        simp only [react, changeLid, hsame, if_false, quiet]
        split <;> rfl
  | command r client =>
      refine same ?_ rfl
      cases r with
      | getConfig => rfl
      | apply command =>
          simp only [react, control]
          split <;> rfl
      | writeConfig =>
          simp only [react, control]
          split <;> rfl

/-- Where a head comes from that is there after an event. -/
theorem mem_react_cases (hids : s.outputs.ids.Nodup) {h : Head}
    (hh : h ∈ (s.react e).session.outputs.heads) :
    (∃ id, e = .headArrived id ∧ h = .blank id) ∨ ∃ a ∈ s.outputs.heads, h = s.acted e a := by
  cases e.traffic with
  | coming id =>
      simp only [react, quiet, Outputs.addHead] at hh
      split at hh
      · exact Or.inr ⟨h, hh, rfl⟩
      · rcases List.mem_append.mp hh with hold | hnew
        · exact Or.inr ⟨h, hold, rfl⟩
        · exact Or.inl ⟨id, rfl, List.mem_singleton.mp hnew⟩
  | going id =>
      refine Or.inr ⟨h, ?_, rfl⟩
      simp only [react, quiet, Outputs.removeHead] at hh
      split at hh
      · exact hh
      · exact List.mem_of_mem_eraseP hh
  | staying harrived hfinished =>
      rw [heads_react hids harrived hfinished] at hh
      obtain ⟨a, ha, rfl⟩ := List.mem_map.mp hh
      exact Or.inr ⟨a, ha, rfl⟩

/-- A head that does not leave is there after an event, as what the event makes of it. -/
theorem acted_mem_react (hids : s.outputs.ids.Nodup) {h : Head} (hh : h ∈ s.outputs.heads)
    (hstays : e ≠ .headFinished h.id) : s.acted e h ∈ (s.react e).session.outputs.heads := by
  cases e.traffic with
  | coming id =>
      simp only [react, quiet, Outputs.addHead]
      split
      · exact hh
      · exact List.mem_append_left _ hh
  | going id =>
      have hother : h.id ≠ id := fun hid => hstays (hid ▸ rfl)
      simp only [react, quiet, Outputs.removeHead]
      split
      · exact hh
      · exact (List.mem_eraseP_of_neg (a := h) (by simpa using hother)).mpr hh
  | staying harrived hfinished =>
      rw [heads_react hids harrived hfinished]
      exact List.mem_map_of_mem hh

end Session

end OutputArranger
