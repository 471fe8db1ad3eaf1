import OutputArranger.Proofs.Session.HeadChanges
import OutputArranger.Proofs.Session.OwnWrites

/-!
# Two runs over the same events

Two sessions are told the same, but compute their layouts at different times. They may then send
different requests, so that one answer means a mode to one session and nothing to the other. Nothing
else of what is reported of a head depends on requests, and the modes do not either if every answer
is about the same mode in both sessions.
-/

namespace OutputArranger

/-- A head without the notes of passes, and without what an answer changes unless it is to be
seen. -/
def Head.seen (answers : Bool) (h : Head) : Head :=
  { h with
    currentMode := if answers then h.currentMode else none
    failedModes := if answers then h.failedModes else []
    lidClosed := false
    dirty := false
    pending := .none
    desired := .blank
    wantsFastest := false
    warnedNoMode := false }

/-- Whether an event says how a request has ended that may have been for a mode. -/
def Event.settles : Event → Bool
  | .resolved .succeeded => true
  | .resolved .failed => true
  | _ => false

/-- The mode that a head is waiting for. -/
def Transaction.awaited (modeChange : Option (HeadId × ModeId)) (id : HeadId) : Option ModeId :=
  match modeChange with
  | some (h, m) => if h = id then some m else none
  | none => none

/-- The mode that a head of a session is waiting for. -/
def Session.awaited (s : Session) : HeadId → Option ModeId :=
  Transaction.awaited (s.transaction.bind (·.modeChange))

namespace Head

variable {answers : Bool}

/-! ## Reports -/

theorem seen_reported (h : Head) (r : HeadReport) :
    (h.reported r).seen answers = ((h.seen answers).reported r).seen answers := by
  cases answers <;> cases r <;> rfl

theorem seen_arriveMode (m : ModeId) (h : Head) :
    (Session.arriveMode m h).seen answers =
      (Session.arriveMode m (h.seen answers)).seen answers := by
  have hknown : (h.seen answers).mode? m = h.mode? m := rfl
  unfold Session.arriveMode addMode
  rw [hknown]
  cases answers <;> split <;> rfl

theorem seen_reportMode (m : ModeId) (r : ModeReport) (h : Head) :
    (Session.reportMode m r h).seen answers =
      (Session.reportMode m r (h.seen answers)).seen answers := by
  have hknown : (h.seen answers).mode? m = h.mode? m := rfl
  cases r with
  | preferred =>
      simp only [Session.reportMode, setPreferred, hknown]
      cases answers <;> split <;> rfl
  | _ => cases answers <;> rfl

theorem seen_finishMode (m : ModeId) (h : Head) :
    (Session.finishMode m h).seen answers =
      (Session.finishMode m (h.seen answers)).seen answers := by
  have hknown : (h.seen answers).mode? m = h.mode? m := rfl
  unfold Session.finishMode removeMode
  rw [hknown]
  cases answers <;> split <;> rfl

theorem seen_coverHead (c : Config) (lid : Option Bool) (h : Head) :
    (Session.coverHead c lid h).seen answers = h.seen answers := by
  unfold Session.coverHead
  split <;> rfl

/-! ## Answers -/

theorem settled_eq (modeChange : Option (HeadId × ModeId)) (h : Head) :
    Transaction.settled modeChange h =
      match Transaction.awaited modeChange h.id with
      | some m => { h with pending := .none, currentMode := some m }
      | none => { h with pending := .none } := by
  cases modeChange with
  | none => rfl
  | some change =>
      obtain ⟨id, m⟩ := change
      by_cases hid : h.id = id
      · simp only [Transaction.settled, Transaction.awaited, hid, if_true]
      · simp only [Transaction.settled, Transaction.awaited, hid, Ne.symm hid, if_false]

theorem undone_eq (outcome : Outcome) (modeChange : Option (HeadId × ModeId)) (h : Head) :
    Transaction.undone outcome modeChange h =
      match outcome, Transaction.awaited modeChange h.id with
      | .failed, some m => { Transaction.failMode m h with pending := .none }
      | _, _ => { h with pending := .none } := by
  cases modeChange with
  | none => cases outcome <;> rfl
  | some change =>
      obtain ⟨id, m⟩ := change
      by_cases hid : h.id = id
      · cases outcome <;> simp [Transaction.undone, Transaction.awaited, hid]
      · cases outcome <;> simp [Transaction.undone, Transaction.awaited, hid, Ne.symm hid]

variable {g h : Head} {mine yours : Option (HeadId × ModeId)}

theorem seen_settled (hseen : g.seen answers = h.seen answers)
    (hawaited : answers = true →
      Transaction.awaited mine g.id = Transaction.awaited yours h.id) :
    (Transaction.settled mine g).seen answers = (Transaction.settled yours h).seen answers := by
  cases answers with
  | false => exact hseen
  | true =>
      rw [settled_eq, settled_eq, hawaited rfl]
      cases Transaction.awaited yours h.id with
      | none => exact hseen
      | some m =>
          exact congrArg (fun a : Head => ({ a with currentMode := some m }).seen true) hseen

theorem seen_undone (outcome : Outcome) (hseen : g.seen answers = h.seen answers)
    (hawaited : answers = true → outcome = .failed →
      Transaction.awaited mine g.id = Transaction.awaited yours h.id) :
    (Transaction.undone outcome mine g).seen answers =
      (Transaction.undone outcome yours h).seen answers := by
  cases answers with
  | false =>
      have hview (modeChange : Option (HeadId × ModeId)) :=
        Transaction.view_undone (g := Head.seen false) (fun _ _ _ _ => rfl) outcome modeChange
      rw [hview, hview]
      exact hseen
  | true =>
      rw [undone_eq, undone_eq]
      cases outcome with
      | failed =>
          rw [hawaited rfl rfl]
          cases Transaction.awaited yours h.id with
          | none => exact hseen
          | some m => exact congrArg (fun a : Head => (Transaction.failMode m a).seen true) hseen
      | succeeded => exact hseen
      | cancelled => exact hseen

end Head

namespace Session

variable {answers : Bool} {s t : Session}

/-- What an event makes of a head is the same in both sessions, but for answers that are about
different modes. -/
theorem seen_acted {e : Event} {g h : Head} (hseen : g.seen answers = h.seen answers)
    (hawaited : answers = true → e.settles = true → s.awaited g.id = t.awaited h.id) :
    (s.acted e g).seen answers = (t.acted e h).seen answers := by
  have hid : g.id = h.id := (congrArg Head.id hseen :)
  have about {id : HeadId} {f : Head → Head}
      (hf : ∀ a : Head, (f a).seen answers = (f (a.seen answers)).seen answers) :
      (if g.id = id then f g else g).seen answers =
        (if h.id = id then f h else h).seen answers := by
    rw [hid]
    split
    · rw [hf, hseen, ← hf]
    · exact hseen
  cases e with
  | headReported id r => exact about fun a => a.seen_reported r
  | modeArrived id m => exact about (Head.seen_arriveMode m)
  | modeReported id m r => exact about (Head.seen_reportMode m r)
  | modeFinished id m => exact about (Head.seen_finishMode m)
  | lidChanged closed =>
      have hcover (u : Session) (a : Head) :
          (u.acted (.lidChanged closed) a).seen answers = a.seen answers := by
        simp only [acted]
        split
        · rfl
        · exact Head.seen_coverHead _ _ _
      rw [hcover, hcover]
      exact hseen
  | resolved outcome =>
      by_cases hsuccess : outcome = .succeeded
      · simp only [acted, hsuccess, if_true]
        exact Head.seen_settled hseen fun ha => hawaited ha (by rw [hsuccess]; rfl)
      · have hundone (u : Session) (a : Head) : (u.acted (.resolved outcome) a).seen answers =
            (Transaction.undone outcome (u.transaction.bind (·.modeChange)) a).seen answers := by
          simp only [acted, hsuccess, if_false]
          split <;> rfl
        rw [hundone, hundone]
        exact Head.seen_undone outcome hseen fun ha hfailed => hawaited ha (by rw [hfailed]; rfl)
  | _ => exact hseen

/-! ## Sessions -/

/-- Two sessions that have been told the same. -/
structure Mirrors (answers : Bool) (s t : Session) : Prop where
  config : s.config = t.config
  lidClosed : s.lidClosed = t.lidClosed
  heads : s.outputs.heads.map (Head.seen answers) = t.outputs.heads.map (Head.seen answers)

theorem Mirrors.ids (h : Mirrors answers s t) : s.outputs.ids = t.outputs.ids := by
  have hids := congrArg (List.map Head.id) h.heads
  rw [List.map_map, List.map_map] at hids
  exact hids

theorem Mirrors.symm (h : Mirrors answers s t) : Mirrors answers t s :=
  ⟨h.config.symm, h.lidClosed.symm, h.heads.symm⟩

theorem Mirrors.layout_left (h : Mirrors answers s t) (accepts : Acceptance) :
    Mirrors answers (s.layout accepts).session t := by
  obtain ⟨hconfig, hlid⟩ := s.layout_environment accepts
  have hview : IgnoresNotes (Head.seen answers) := fun _ _ _ _ _ _ _ => rfl
  exact ⟨hconfig.trans h.config, hlid.trans h.lidClosed, (hview.map_layout s accepts).trans h.heads⟩

theorem Mirrors.layout_right (h : Mirrors answers s t) (accepts : Acceptance) :
    Mirrors answers s (t.layout accepts).session :=
  (h.symm.layout_left accepts).symm

theorem config_handle_congr (hconfig : s.config = t.config) (e : Event) :
    (s.handle e).session.config = (t.handle (recordable e)).session.config := by
  by_cases hfile : ∃ c, e = .configChanged c
  · obtain ⟨c, rfl⟩ := hfile
    change _ = (t.handle (.configChanged c)).session.config
    rw [config_handle_configChanged, config_handle_configChanged, hconfig]
  · push Not at hfile
    have hother : ∀ c, recordable e ≠ .configChanged c := by
      intro c
      cases e <;> simp_all [recordable]
    have hmine := config_after (s := s) (m := .event e) (by simpa using hfile)
    have hyours := config_after (s := t) (m := .event (recordable e)) (by simpa using hother)
    have haccepted : s.accepted (.event e) = t.accepted (.event (recordable e)) := by
      cases e with
      | command r client => cases r <;> simp only [accepted, recordable, hconfig]
      | _ => rfl
    rw [haccepted, hconfig] at hmine
    exact hmine.trans hyours.symm

theorem lidClosed_handle (s : Session) (e : Event) :
    (s.handle e).session.lidClosed =
      match e with
      | .lidChanged closed => some closed
      | _ => s.lidClosed := by
  have hsame : (s.record e).lidClosed = s.lidClosed := rfl
  cases e with
  | lidChanged closed =>
      simp only [handle, react, changeLid, hsame]
      split
      · assumption
      · simp only [quiet]
        split <;> rfl
  | configChanged c =>
      simp only [handle, react, changeConfig]
      split <;> rfl
  | command r client =>
      cases r with
      | getConfig => rfl
      | apply command =>
          simp only [handle, react, control]
          split <;> rfl
      | writeConfig =>
          simp only [handle, react, control]
          split <;> rfl
  | _ => rfl

theorem acted_recordable (e : Event) : t.acted (recordable e) = t.acted e := by
  cases e <;> rfl

theorem seen_addHead {o p : Outputs}
    (h : o.heads.map (Head.seen answers) = p.heads.map (Head.seen answers)) (hids : o.ids = p.ids)
    (id : HeadId) :
    (o.addHead id).heads.map (Head.seen answers) =
      (p.addHead id).heads.map (Head.seen answers) := by
  by_cases hknown : id ∈ o.ids
  · simp only [Outputs.addHead, Outputs.head?_isSome_iff, hknown, hids ▸ hknown, if_true]
    exact h
  · simp only [Outputs.addHead, Outputs.head?_isSome_iff, hknown, hids ▸ hknown, if_false,
      List.map_append, h]

theorem seen_heads_handle (hs : s.Sound) (ht : t.Sound) (h : Mirrors answers s t) {e : Event}
    (hawaited : answers = true → e.settles = true →
      ∀ id ∈ s.outputs.ids, s.awaited id = t.awaited id) :
    (s.handle e).session.outputs.heads.map (Head.seen answers) =
      (t.handle (recordable e)).session.outputs.heads.map (Head.seen answers) := by
  cases e.traffic with
  | coming id => exact seen_addHead h.heads h.ids id
  | going id =>
      change (s.outputs.removeHead id).heads.map _ = (t.outputs.removeHead id).heads.map _
      rw [Outputs.heads_removeHead hs.distinct, Outputs.heads_removeHead ht.distinct]
      have hkept := congrArg (List.filter fun a : Head => decide (a.id ≠ id)) h.heads
      rw [List.filter_map, List.filter_map] at hkept
      exact hkept
  | staying harrived hfinished =>
      -- the heads stay where they are in the list, so they can be compared pair by pair
      have hmine := heads_react (hs.record e).distinct harrived hfinished
      have hyours := heads_react (e := recordable e) (ht.record (recordable e)).distinct
        (by cases e <;> simp_all [recordable]) (by cases e <;> simp_all [recordable])
      have hpairs := h.heads
      rw [← List.forall₂_eq_eq_eq, List.forall₂_map_left_iff, List.forall₂_map_right_iff] at hpairs
      rw [Session.handle, hmine, Session.handle, hyours, acted_recordable, List.map_map,
        List.map_map, ← List.forall₂_eq_eq_eq, List.forall₂_map_left_iff,
        List.forall₂_map_right_iff]
      obtain ⟨hlength, hseen⟩ := List.forall₂_iff_zip.mp hpairs
      refine List.forall₂_iff_zip.mpr ⟨hlength, fun {g a} hzip => ?_⟩
      have hg : g.id ∈ s.outputs.ids := List.mem_map_of_mem (List.of_mem_zip hzip).1
      have hid : g.id = a.id := (congrArg Head.id (hseen hzip) :)
      exact seen_acted (s := s.record e) (t := t.record (recordable e)) (hseen hzip)
        fun hanswers hsettles => hid ▸ hawaited hanswers hsettles g.id hg

theorem Mirrors.handle (hs : s.Sound) (ht : t.Sound) (h : Mirrors answers s t) {e : Event}
    (hawaited : answers = true → e.settles = true →
      ∀ id ∈ s.outputs.ids, s.awaited id = t.awaited id) :
    Mirrors answers (s.handle e).session (t.handle (recordable e)).session := by
  refine ⟨config_handle_congr h.config e, ?_, seen_heads_handle hs ht h hawaited⟩
  rw [lidClosed_handle, lidClosed_handle]
  cases e <;> first | rfl | exact h.lidClosed

/-! ## Snapshots -/

/-- When the lid has been looked at, a snapshot shows no more of the heads than is to be seen. -/
theorem Mirrors.summaries {α : Type} (h : Mirrors answers s t) (hs : s.coverChanges = false)
    (ht : t.coverChanges = false) {f : HeadSummary → α}
    (hf : ∀ (g : Head) (lid : Bool), f { HeadSummary.ofHead g with lidClosed := lid } =
      f { HeadSummary.ofHead (g.seen answers) with lidClosed := lid }) :
    (s.snapshot.heads.map f) = t.snapshot.heads.map f := by
  have view {u : Session} (hu : u.coverChanges = false) :
      u.snapshot.heads.map f = (u.outputs.heads.map (Head.seen answers)).map fun g =>
        f { HeadSummary.ofHead g with lidClosed := isCovered u.config u.lidClosed g } := by
    rw [snapshot, List.map_map, List.map_map]
    refine List.map_congr_left fun g hg => ?_
    have hcovered : g.lidClosed = isCovered u.config u.lidClosed g :=
      coverChanges_eq_false_iff.mp hu g hg
    exact (congrArg (fun lid => f { HeadSummary.ofHead g with lidClosed := lid }) hcovered).trans
      (hf g _)
  rw [view hs, view ht, h.heads, h.config, h.lidClosed]

end Session

/-- A snapshot that does not tell which modes the heads have and which ones were refused. -/
def Snapshot.withoutModes (s : Snapshot) : Snapshot :=
  { s with heads := s.heads.map fun h => { h with mode := none, failedModes := [] } }

namespace Session

variable {answers : Bool} {s t : Session}

theorem Mirrors.withoutModes (h : Mirrors answers s t) (hs : s.coverChanges = false)
    (ht : t.coverChanges = false) : s.snapshot.withoutModes = t.snapshot.withoutModes := by
  have hheads := h.summaries hs ht (f := fun g => { g with mode := none, failedModes := [] })
    fun _ _ => rfl
  have hconfig : s.snapshot.config = t.snapshot.config := h.config
  have hlid : s.snapshot.lidClosed = t.snapshot.lidClosed := h.lidClosed
  rw [Snapshot.withoutModes, hheads, hconfig, hlid]
  rfl

theorem Mirrors.snapshot (h : Mirrors true s t) (hs : s.coverChanges = false)
    (ht : t.coverChanges = false) : s.snapshot = t.snapshot := by
  have hheads := h.summaries hs ht (f := id) fun _ _ => rfl
  rw [List.map_id, List.map_id] at hheads
  have hconfig : s.snapshot.config = t.snapshot.config := h.config
  have hlid : s.snapshot.lidClosed = t.snapshot.lidClosed := h.lidClosed
  calc s.snapshot = ⟨s.snapshot.config, s.snapshot.lidClosed, s.snapshot.heads⟩ := rfl
    _ = ⟨t.snapshot.config, t.snapshot.lidClosed, t.snapshot.heads⟩ := by
      rw [hconfig, hlid, hheads]
    _ = t.snapshot := rfl

end Session

end OutputArranger
