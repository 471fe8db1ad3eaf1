import OutputArranger.Proofs.Session.Run
import OutputArranger.Proofs.Session.Step

/-!
# Events about different heads

An event about a head adds this head, removes it or changes it where it stands. Nothing else in the
session depends on which head that is, so the event leaves all other heads and everything that is
not about heads alone, and events about different heads can change places. Only the order in which
heads arrive, and the order in which they leave, is remembered.
-/

namespace OutputArranger

/-- The head that an event is about, be it the head itself or one of its modes. -/
def Event.about? : Event → Option HeadId
  | .headArrived id => some id
  | .headReported id _ => some id
  | .headFinished id => some id
  | .modeArrived id _ => some id
  | .modeReported id _ _ => some id
  | .modeFinished id _ => some id
  | _ => none

/-! ## Operations on different heads -/

namespace Outputs

variable {i j : HeadId} {f g : Head → Head}

/-- An update that leaves handles alone finds the same heads under them afterwards. -/
theorem is_updated (hf : ∀ h, (f h).id = h.id) (h : Head) :
    decide ((f h).id = j) = decide (h.id = j) := by
  rw [hf]

theorem is_other (hij : i ≠ j) (h : Head) (hi : decide (h.id = i) = true) :
    decide (h.id = j) = false :=
  decide_eq_false fun hj => hij ((of_decide_eq_true hi).symm.trans hj)

theorem head?_updateHead (hij : i ≠ j) (hf : ∀ h, (f h).id = h.id) (o : Outputs) :
    (o.updateHead i f).head? j = o.head? j :=
  find?_updateFirst (is_other hij) (is_updated hf) o.heads

theorem head?_addHead (hij : i ≠ j) (o : Outputs) : (o.addHead i).head? j = o.head? j := by
  unfold addHead
  split
  · rfl
  · simp only [head?, List.find?_append]
    have hblank : [Head.blank i].find? (·.id = j) = none := by simp [Head.blank, hij]
    rw [hblank, Option.or_none]

theorem head?_removeHead (hij : i ≠ j) (o : Outputs) : (o.removeHead i).head? j = o.head? j := by
  unfold removeHead
  split
  · rfl
  · simp only [head?]
    rw [← List.head?_filter, filter_eraseP (is_other hij), List.head?_filter]

theorem updateHead_comm (hij : i ≠ j) (hf : ∀ h, (f h).id = h.id)
    (hg : ∀ h, (g h).id = h.id) (o : Outputs) :
    (o.updateHead i f).updateHead j g = (o.updateHead j g).updateHead i f :=
  congrArg (fun heads => { o with heads })
    (updateFirst_comm (is_other hij) (is_updated hf) (is_updated hg) o.heads)

theorem updateHead_addHead (hij : i ≠ j) (hg : ∀ h, (g h).id = h.id) (o : Outputs) :
    (o.addHead i).updateHead j g = (o.updateHead j g).addHead i := by
  have hknown : ((o.updateHead j g).head? i).isSome = (o.head? i).isSome :=
    congrArg Option.isSome (head?_updateHead hij.symm hg o)
  have hnew : updateFirst (·.id = j) g (o.heads ++ [.blank i]) =
      updateFirst (·.id = j) g o.heads ++ [.blank i] :=
    updateFirst_concat_of_neg (p := (·.id = j)) (decide_eq_false hij) g o.heads
  unfold addHead
  rw [hknown]
  split
  · rfl
  · simp only [updateHead, hnew]

theorem updateHead_removeHead (hij : i ≠ j) (hg : ∀ h, (g h).id = h.id) (o : Outputs) :
    (o.removeHead i).updateHead j g = (o.updateHead j g).removeHead i := by
  unfold removeHead
  rw [head?_updateHead hij.symm hg]
  cases o.head? i with
  | none => rfl
  | some h =>
      simp only [updateHead, eraseP_updateFirst (is_other hij.symm) (is_updated hg)]

theorem removeHead_addHead (hij : i ≠ j) (o : Outputs) :
    (o.addHead i).removeHead j = (o.removeHead j).addHead i := by
  have hknown := congrArg Option.isSome (head?_removeHead hij.symm o)
  cases hj : o.head? j with
  | none =>
      simp only [removeHead, head?_addHead hij, hj]
  | some h =>
      have hleft : (o.heads ++ [Head.blank i]).eraseP (·.id = j) =
          o.heads.eraseP (·.id = j) ++ [Head.blank i] := by
        have hh := List.find?_some hj
        exact List.eraseP_append_left (p := (·.id = j)) hh _ (List.mem_of_find?_eq_some hj)
      simp only [removeHead, head?_addHead hij, hj] at hknown ⊢
      unfold addHead
      rw [hknown]
      split
      · rfl
      · simp only [hleft, List.filter_append]
        simp [hij]

/-- Of the other heads, nothing changes, not even their order. -/
theorem others_addHead (id : HeadId) (o : Outputs) :
    ((o.addHead id).heads.filter fun h => decide (h.id ≠ id)) =
      o.heads.filter fun h => decide (h.id ≠ id) := by
  unfold addHead
  split
  · rfl
  · simp [Head.blank]

theorem others_removeHead (id : HeadId) (o : Outputs) :
    ((o.removeHead id).heads.filter fun h => decide (h.id ≠ id)) =
      o.heads.filter fun h => decide (h.id ≠ id) := by
  unfold removeHead
  split
  · rfl
  · exact filter_eraseP (fun h hid => by simpa using hid) o.heads

theorem others_updateHead {id : HeadId} (hf : ∀ h, (f h).id = h.id) (o : Outputs) :
    ((o.updateHead id f).heads.filter fun h => decide (h.id ≠ id)) =
      o.heads.filter fun h => decide (h.id ≠ id) :=
  filter_updateFirst (fun h hid => by simpa using hid) (fun h => by rw [hf]) o.heads

theorem updateHead_eq_self {id : HeadId} {o : Outputs} (hid : id ∉ o.ids) (f : Head → Head) :
    o.updateHead id f = o := by
  have hnone : ∀ h ∈ o.heads, decide (h.id = id) = false := fun h hh =>
    decide_eq_false fun heq => hid (heq ▸ List.mem_map_of_mem hh)
  exact congrArg (fun heads => { o with heads }) (updateFirst_eq_self hnone f)

theorem removeHead_eq_self {id : HeadId} {o : Outputs} (hid : id ∉ o.ids) :
    o.removeHead id = o := by
  rw [removeHead, head?_eq_none_iff.mpr hid]

end Outputs

/-! ## Events about different heads -/

namespace Session

open Outputs

/-- What an event makes of the head that it is about, where it stands. -/
def revised (e : Event) (h : Head) : Head :=
  match e with
  | .headReported _ r => h.reported r
  | .modeArrived _ m => arriveMode m h
  | .modeReported _ m r => reportMode m r h
  | .modeFinished _ m => finishMode m h
  | _ => h

theorem id_revised (e : Event) (h : Head) : (revised e h).id = h.id := by
  cases e with
  | headReported id r => exact congrArg Prod.fst (h.stake_reported r)
  | modeArrived id m => exact congrArg Prod.fst (stake_arriveMode m h)
  | modeReported id m r => exact congrArg Prod.fst (stake_reportMode m r h)
  | modeFinished id m => exact congrArg Prod.fst (stake_finishMode m h)
  | _ => rfl

/-- What an event does to the outputs on account of the head that it is about. -/
inductive Acts : Event → HeadId → (Outputs → Outputs) → Prop
  | adds (id : HeadId) : Acts (.headArrived id) id (·.addHead id)
  | removes (id : HeadId) : Acts (.headFinished id) id (·.removeHead id)
  | revises {e : Event} {id : HeadId} : e ≠ .headArrived id → e ≠ .headFinished id →
      Acts e id (·.updateHead id (revised e))

/-- An event about a head acts on the outputs and on nothing else, in every session alike. -/
theorem exists_acts {e : Event} {id : HeadId} (he : e.about? = some id) :
    ∃ act, Acts e id act ∧
      ∀ s : Session, (s.react e).session = { s with outputs := act s.outputs } := by
  cases e with
  | headArrived i =>
      obtain rfl := Option.some.inj he
      exact ⟨_, .adds i, fun _ => rfl⟩
  | headFinished i =>
      obtain rfl := Option.some.inj he
      exact ⟨_, .removes i, fun _ => rfl⟩
  | headReported | modeArrived | modeReported | modeFinished =>
      obtain rfl := Option.some.inj he
      exact ⟨_, .revises (by simp) (by simp), fun _ => rfl⟩
  | _ => simp [Event.about?] at he

section Acts

variable {a b e : Event} {i j id : HeadId} {act first second : Outputs → Outputs}

theorem Acts.others (h : Acts e id act) (o : Outputs) :
    ((act o).heads.filter fun h => decide (h.id ≠ id)) =
      o.heads.filter fun h => decide (h.id ≠ id) := by
  cases h with
  | adds => exact others_addHead id o
  | removes => exact others_removeHead id o
  | revises => exact others_updateHead (id_revised e) o

/-- What is noted of heads that came and went stays noted of the others, and nothing is counted. -/
theorem Acts.notes (h : Acts e id act) (o : Outputs) :
    ((act o).arrived.filter fun a => decide (a ≠ id)) =
        (o.arrived.filter fun a => decide (a ≠ id)) ∧
      o.departed <+: (act o).departed ∧ (act o).serial = o.serial ∧
        (act o).retries = o.retries := by
  cases h with
  | adds =>
      simp only [addHead]
      split
      · exact ⟨rfl, List.prefix_rfl, rfl, rfl⟩
      · exact ⟨by simp, List.prefix_rfl, rfl, rfl⟩
  | removes =>
      simp only [removeHead]
      split
      · exact ⟨rfl, List.prefix_rfl, rfl, rfl⟩
      · exact ⟨by simp, List.prefix_append _ _, rfl, rfl⟩
  | revises => exact ⟨rfl, List.prefix_rfl, rfl, rfl⟩

/-- Of a head that is not there, only the arrival does anything. -/
theorem Acts.eq_self (h : Acts e id act) (he : e ≠ .headArrived id) {o : Outputs}
    (hid : id ∉ o.ids) :
    act o = o := by
  cases h with
  | adds => exact absurd rfl he
  | removes => exact removeHead_eq_self hid
  | revises => exact updateHead_eq_self hid (revised e)

theorem Acts.comm (ha : Acts a i first) (hb : Acts b j second) (hij : i ≠ j)
    (harrived : a = .headArrived i → b ≠ .headArrived j)
    (hfinished : a = .headFinished i → b ≠ .headFinished j) (o : Outputs) :
    second (first o) = first (second o) := by
  cases ha with
  | adds =>
      cases hb with
      | adds => exact absurd rfl (harrived rfl)
      | removes => exact removeHead_addHead hij o
      | revises => exact updateHead_addHead hij (id_revised b) o
  | removes =>
      cases hb with
      | adds => exact (removeHead_addHead hij.symm o).symm
      | removes => exact absurd rfl (hfinished rfl)
      | revises => exact updateHead_removeHead hij (id_revised b) o
  | revises =>
      cases hb with
      | adds => exact (updateHead_addHead hij.symm (id_revised a) o).symm
      | removes => exact (updateHead_removeHead hij.symm (id_revised a) o).symm
      | revises => exact updateHead_comm hij (id_revised a) (id_revised b) o

end Acts

/-- Two sessions differ only in what concerns one head, and in what has been recorded. -/
structure DiffersAt (id : HeadId) (s t : Session) : Prop where
  heads : (t.outputs.heads.filter fun h => decide (h.id ≠ id)) =
    s.outputs.heads.filter fun h => decide (h.id ≠ id)
  arrived : (t.outputs.arrived.filter fun a => decide (a ≠ id)) =
    s.outputs.arrived.filter fun a => decide (a ≠ id)
  departed : s.outputs.departed <+: t.outputs.departed
  serial : t.outputs.serial = s.outputs.serial
  retries : t.outputs.retries = s.outputs.retries
  rest : t = { s with outputs := t.outputs, recording := t.recording }

/-- A session apart from its recording, which keeps the events in the order in which they came. -/
def live (s : Session) : Session := { s with recording := none }

/-- An event about a head leaves every other head as it is and where it is, and everything in the
session that is not about heads. If the head is not there, nothing happens unless it arrives. So two
events about different heads lead to the same session in either order, unless both heads arrive or
both leave. -/
theorem head_events_apart (s : Session) {e : Event} {id : HeadId} (he : e.about? = some id) :
    s.DiffersAt id (s.handle e).session ∧
      (id ∉ s.outputs.ids → e ≠ .headArrived id → (s.handle e).session = s.record e) ∧
      ∀ other otherId, other.about? = some otherId → id ≠ otherId →
        (e = .headArrived id → other ≠ .headArrived otherId) →
        (e = .headFinished id → other ≠ .headFinished otherId) →
        ((s.handle e).session.handle other).session.live =
          ((s.handle other).session.handle e).session.live := by
  obtain ⟨act, hacts, hact⟩ := exists_acts he
  refine ⟨?_, fun hid harrived => ?_, fun other otherId hother hne harrived hfinished => ?_⟩
  · obtain ⟨harrived, hdeparted, hserial, hretries⟩ := hacts.notes s.outputs
    rw [handle, hact]
    exact ⟨hacts.others s.outputs, harrived, hdeparted, hserial, hretries, rfl⟩
  · have hsame : act (s.record e).outputs = s.outputs := hacts.eq_self harrived hid
    rw [handle, hact, hsame]
    rfl
  · obtain ⟨second, hacts', hact'⟩ := exists_acts hother
    have hcomm := hacts.comm hacts' hne harrived hfinished s.outputs
    simp only [handle, hact, hact']
    exact congrArg (fun outputs => ({ s with outputs } : Session).live) hcomm

/-- Two displays with a mode each, which have been reported as arrived. -/
def twoDisplays : Session :=
  (start .default ⟨"cfg.toml", true, none⟩ true).run
    [.event (.headArrived ⟨1⟩), .event (.modeArrived ⟨1⟩ ⟨10⟩), .event (.headArrived ⟨2⟩),
      .event (.modeArrived ⟨2⟩ ⟨20⟩), .pass .always]

/-- The first display leaves while the second one is scaled. -/
theorem head_events_apart_twoDisplays :
    let leaves : Event := .headFinished ⟨1⟩
    let scaled : Event := .headReported ⟨2⟩ (.scale ⟨512⟩)
    let one := (twoDisplays.handle leaves).session
    leaves.about? = some ⟨1⟩ ∧ scaled.about? = some ⟨2⟩ ∧ twoDisplays.DiffersAt ⟨1⟩ one ∧
      (one.handle scaled).session.live =
        ((twoDisplays.handle scaled).session.handle leaves).session.live ∧
      (one.handle scaled).session.outputs.heads.map (fun h => (h.id, h.scale, h.modes.length)) =
        [(⟨2⟩, ⟨512⟩, 1)] := by
  intro leaves scaled one
  have habout : leaves.about? = some ⟨1⟩ := rfl
  obtain ⟨hdiffers, _, hswap⟩ := head_events_apart twoDisplays habout
  exact ⟨habout, rfl, hdiffers, hswap scaled ⟨2⟩ rfl (by decide) (by decide) (by decide), by decide⟩

end Session

end OutputArranger
