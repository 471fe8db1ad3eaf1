import OutputArranger.Proofs.Session.EveryHead
import OutputArranger.Proofs.Session.HeadChanges

/-!
# References to modes

A head refers to modes by their handles: to the one that it is in, and to those that were refused.
When a mode is withdrawn the head forgets every reference to it. The answer to a request for a mode,
however, brings a handle along that was noted when the request was sent, and whether the head still
offers that mode is not looked at. As long as current modes are reported of modes that are offered,
this is the only way to a reference to a mode that is not there.
-/

namespace OutputArranger

namespace Head

def Offers (h : Head) (m : ModeId) : Prop := m ∈ h.modes.map (·.id)

/-- The modes to which a head refers are modes that it offers. -/
structure Grounded (h : Head) : Prop where
  current : ∀ m, h.currentMode = some m → h.Offers m
  failed : ∀ m ∈ h.failedModes, h.Offers m

variable {g h : Head} {m : ModeId}

theorem Grounded.mono (hh : h.Grounded) (hoffers : ∀ m, h.Offers m → g.Offers m)
    (hsame : (g.currentMode, g.failedModes) = (h.currentMode, h.failedModes)) : g.Grounded := by
  obtain ⟨hcurrent, hfailed⟩ := Prod.mk.inj hsame
  refine ⟨fun m hm => ?_, fun m hm => ?_⟩
  · exact hoffers m (hh.current m (hcurrent ▸ hm))
  · exact hoffers m (hh.failed m (hfailed ▸ hm))

theorem grounded_blank (id : HeadId) : (blank id).Grounded := ⟨by simp [blank], by simp [blank]⟩

theorem Grounded.reported (hh : h.Grounded) {r : HeadReport}
    (hr : ∀ m, r = .currentMode m → h.Offers m) : (h.reported r).Grounded := by
  cases r with
  | currentMode m =>
      refine ⟨fun n hn => ?_, hh.failed⟩
      obtain rfl : m = n := Option.some.inj hn
      exact hr m rfl
  | _ => exact ⟨hh.current, hh.failed⟩

theorem Grounded.arriveMode (hh : h.Grounded) (m : ModeId) :
    (Session.arriveMode m h).Grounded := by
  have hoffers (n : ModeId) (hn : h.Offers n) : (h.addMode m).Offers n := by
    rw [Offers] at hn ⊢
    rcases Session.ids_addMode h m with hsame | ⟨_, happ⟩
    · rw [hsame]
      exact hn
    · rw [happ]
      exact List.mem_append_left _ hn
  refine hh.mono hoffers ?_
  unfold Session.arriveMode addMode
  split <;> rfl

theorem Grounded.reportMode (hh : h.Grounded) (m : ModeId) (r : ModeReport) :
    (Session.reportMode m r h).Grounded := by
  have hoffers (n : ModeId) (hn : h.Offers n) : (Session.reportMode m r h).Offers n := by
    rw [Offers, Session.ids_reportMode]
    exact hn
  refine hh.mono hoffers ?_
  cases r with
  | preferred =>
      simp only [Session.reportMode, setPreferred]
      split <;> rfl
  | size width height => rfl
  | refresh rate => rfl

/-- A mode that is withdrawn takes the references to it away, and no other mode goes. -/
theorem Grounded.finishMode (hh : h.Grounded) (m : ModeId) :
    (Session.finishMode m h).Grounded := by
  have hoffers {n : ModeId} (hne : n ≠ m) (hn : h.Offers n) :
      n ∈ (h.modes.eraseP (·.id = m)).map (·.id) := by
    obtain ⟨mode, hmode, rfl⟩ := List.mem_map.mp hn
    exact List.mem_map_of_mem ((List.mem_eraseP_of_neg (by simpa using hne)).mpr hmode)
  unfold Session.finishMode removeMode
  split
  · refine ⟨fun n hn => ?_, fun n hn => ?_⟩
    · simp only [forget] at hn
      split at hn
      · simp at hn
      · rename_i hother
        exact hoffers (fun hnm => hother (hnm ▸ hn)) (hh.current n hn)
    · obtain ⟨hfailed, hne⟩ := List.mem_filter.mp hn
      exact hoffers (by simpa using hne) (hh.failed n hfailed)
  · exact hh

/-- A mode that was not there before it arrives has not been refused. -/
theorem Grounded.untried (hh : h.Grounded) (hm : ¬ h.Offers m) :
    .blank m ∈ (Session.arriveMode m h).usableModes := by
  have hfailed : m ∉ h.failedModes := fun hmem => hm (hh.failed m hmem)
  have hknown : (h.mode? m).isSome = false := by
    rw [Option.isSome_eq_false_iff, Option.isNone_iff_eq_none, mode?, List.find?_eq_none]
    intro mode hmode hid
    exact hm (List.mem_map.mpr ⟨mode, hmode, of_decide_eq_true hid⟩)
  simp only [usableModes, Session.arriveMode, addMode, hknown, Bool.false_eq_true, if_false,
    List.mem_filter]
  exact ⟨List.mem_append_right _ (List.mem_singleton_self _), decide_eq_true hfailed⟩

end Head

namespace Transaction

variable {modeChange : Option (HeadId × ModeId)} {h : Head}

theorem grounded_settled_iff (hh : h.Grounded) :
    (settled modeChange h).Grounded ↔ ∀ m, modeChange = some (h.id, m) → h.Offers m := by
  constructor
  · rintro hsettled m rfl
    exact hsettled.current m (by simp [settled])
  · intro hoffered
    refine ⟨fun m hm => ?_, hh.failed⟩
    obtain _ | ⟨id, n⟩ := modeChange
    · exact hh.current m hm
    · simp only [settled] at hm
      split at hm
      · rename_i hid
        obtain rfl : n = m := Option.some.inj hm
        exact hoffered n (hid ▸ rfl)
      · exact hh.current m hm

theorem grounded_undone_iff {outcome : Outcome} (hh : h.Grounded) :
    (undone outcome modeChange h).Grounded ↔
      (outcome = .failed → ∀ m, modeChange = some (h.id, m) → h.Offers m) := by
  constructor
  · rintro hundone rfl m rfl
    have hfailed : m ∈ (undone .failed (some (h.id, m)) h).failedModes := by
      simp [undone, failMode, mem_insertNew]
    have hmodes : (undone .failed (some (h.id, m)) h).modes = h.modes := by
      simp [undone, failMode]
    have hoffered := hundone.failed m hfailed
    rw [Head.Offers, hmodes] at hoffered
    exact hoffered
  · intro hoffered
    unfold undone
    split
    · rename_i id m
      split
      · rename_i hid
        refine ⟨fun n hn => by simp [failMode] at hn, fun n hn => ?_⟩
        rcases mem_insertNew.mp hn with rfl | hn
        · exact hoffered rfl n (hid ▸ rfl)
        · exact hh.failed n hn
      · exact ⟨hh.current, hh.failed⟩
    · exact ⟨hh.current, hh.failed⟩

end Transaction

namespace Session

/-- A report of the mode that a head is in names a mode that the head offers. -/
def Naming (s : Session) : Move → Prop
  | .event (.headReported id (.currentMode m)) =>
      ∀ h ∈ s.outputs.heads, h.id = id → h.Offers m
  | _ => True

/-- The answer to a request for a mode that its head does not offer any more. A request that was
cancelled tells nothing about the mode. -/
def Belated (s : Session) : Move → Prop
  | .event (.resolved outcome) =>
      outcome ≠ .cancelled ∧
        ∃ h ∈ s.outputs.heads, ∃ m, s.transaction = some ⟨some (h.id, m)⟩ ∧ ¬ h.Offers m
  | _ => False

def Grounded (s : Session) : Prop := ∀ h ∈ s.outputs.heads, h.Grounded

variable {s : Session}

theorem grounded_acted_resolved_iff {h : Head} (hh : h.Grounded) (outcome : Outcome) :
    (s.acted (.resolved outcome) h).Grounded ↔
      (outcome ≠ .cancelled → ∀ m, s.transaction = some ⟨some (h.id, m)⟩ → h.Offers m) := by
  have hchange (m : ModeId) : s.transaction.bind (·.modeChange) = some (h.id, m) ↔
      s.transaction = some ⟨some (h.id, m)⟩ := by
    cases s.transaction with
    | none => simp
    | some t => cases t; simp
  have hundone (dirty : Bool) (a : Head) :
      ({ a with dirty := dirty } : Head).Grounded ↔ a.Grounded :=
    ⟨fun ha => ⟨ha.current, ha.failed⟩, fun ha => ⟨ha.current, ha.failed⟩⟩
  cases outcome with
  | succeeded =>
      simp only [acted, if_true, Transaction.grounded_settled_iff hh, hchange]
      simp
  | failed =>
      simp only [acted, reduceCtorEq, if_false]
      split
      · simp only [Transaction.grounded_undone_iff hh, hchange]
        simp
      · rw [hundone, Transaction.grounded_undone_iff hh]
        simp [hchange]
  | cancelled =>
      simp only [acted, reduceCtorEq, if_false]
      split
      · rw [Transaction.grounded_undone_iff hh]
        simp
      · rw [hundone, Transaction.grounded_undone_iff hh]
        simp

theorem grounded_acted {h : Head} (hh : h.Grounded) {e : Event} (he : e.isAnswer = false)
    (hmem : h ∈ s.outputs.heads) (hnames : s.Naming (.event e)) : (s.acted e h).Grounded := by
  cases s.effect e h with
  | untouched hg => rwa [hg]
  | reported r hr hg =>
      subst hr
      refine hg ▸ hh.reported ?_
      rintro m rfl
      exact hnames h hmem rfl
  | modeArrived m _ hg => exact hg ▸ hh.arriveMode m
  | modeReported m r _ hg => exact hg ▸ hh.reportMode m r
  | modeFinished m _ hg => exact hg ▸ hh.finishMode m
  | covered closed _ hg =>
      rw [hg, coverHead]
      split
      · exact hh
      · exact ⟨hh.current, hh.failed⟩
  | settled hr _ => simp [hr, Event.isAnswer] at he
  | undone outcome hr _ => simp [hr, Event.isAnswer] at he
  | givenUp outcome hr _ => simp [hr, Event.isAnswer] at he

theorem Grounded.react (hg : s.Grounded) (hs : s.Sound) {e : Event} (he : e.isAnswer = false)
    (hnames : s.Naming (.event e)) : (s.react e).session.Grounded := by
  intro h hh
  rcases mem_react_cases hs.distinct hh with ⟨id, _, rfl⟩ | ⟨a, ha, rfl⟩
  · exact Head.grounded_blank id
  · exact grounded_acted (hg a ha) he ha hnames

theorem grounded_answered_iff (hg : s.Grounded) (hs : s.Sound) (outcome : Outcome) :
    (s.react (.resolved outcome)).session.Grounded ↔ ¬ s.Belated (.event (.resolved outcome)) := by
  rw [Grounded, heads_answered hs.distinct, List.forall_mem_map, Belated]
  constructor
  · rintro hall ⟨hne, h, hh, m, ht, hoffers⟩
    exact hoffers ((grounded_acted_resolved_iff (hg h hh) outcome).mp (hall h hh) hne m ht)
  · intro hnot h hh
    refine (grounded_acted_resolved_iff (hg h hh) outcome).mpr fun hne m ht => ?_
    by_contra hoffers
    exact hnot ⟨hne, h, hh, m, ht, hoffers⟩

/-- What a pass leaves alone of the references. -/
theorem ignoresNotes_grounded : IgnoresNotes Head.Grounded := by
  intro h lid dirty pending desired fastest warned
  exact propext ⟨fun hh => ⟨hh.current, hh.failed⟩, fun hh => ⟨hh.current, hh.failed⟩⟩

/-- A move keeps all references in order exactly if it is no answer about a mode that is gone. -/
theorem grounded_after_iff (hg : s.Grounded) (hs : s.Sound) {m : Move} (hnames : s.Naming m) :
    (s.after m).Grounded ↔ ¬ s.Belated m := by
  cases m with
  | pass accepts =>
      have hkept : (s.layout accepts).session.Grounded :=
        forall_mem_of_map_eq (ignoresNotes_grounded.map_layout s accepts) hg
      exact iff_of_true hkept id
  | event e =>
      rcases e.eq_resolved_or with ⟨outcome, rfl⟩ | he
      · exact grounded_answered_iff (s := s.record _) hg (hs.record _) outcome
      · have hkept : (s.handle e).session.Grounded :=
          Grounded.react (s := s.record e) hg (hs.record e) he hnames
        refine iff_of_true hkept ?_
        cases e with
        | resolved outcome => simp [Event.isAnswer] at he
        | _ => exact id

theorem grounded_run_iff (hg : s.Grounded) (hs : s.Sound) {moves : List Move}
    (hnames : s.Throughout Naming moves) :
    (∀ earlier, earlier <+: moves → (s.run earlier).Grounded) ↔ ¬ s.Sometime Belated moves := by
  -- Soundness goes along: an answer acts on each head by itself only if all handles differ.
  induction moves generalizing s with
  | nil =>
      refine iff_of_true ?_ id
      intro earlier hinitial
      rw [List.prefix_nil.mp hinitial]
      exact hg
  | cons m rest ih =>
      have hstep := grounded_after_iff hg hs hnames.1
      constructor
      · intro hall hsometime
        have hnext : (s.after m).Grounded := hall [m] ⟨rest, rfl⟩
        have hlater := (ih hnext (hs.after m) hnames.2).mp fun earlier hinitial =>
          hall (m :: earlier) (List.cons_prefix_cons.mpr ⟨rfl, hinitial⟩)
        exact hsometime.elim (hstep.mp hnext) hlater
      · intro hnever earlier hinitial
        have hnext := hstep.mpr fun hnow => hnever (Or.inl hnow)
        have hlater := (ih hnext (hs.after m) hnames.2).mpr fun hsome => hnever (Or.inr hsome)
        rcases List.prefix_cons_iff.mp hinitial with rfl | ⟨first, rfl, hfirst⟩
        · exact hg
        · exact hlater first hfirst

/-- In a run in which current modes are reported of modes that are offered, every mode to which a
head refers is offered at every time, exactly if no answer to a request for a mode comes when the
head does not offer it any more. Then a mode that arrives where its handle is not in use is usable,
and the head is not in it, whatever mode had that handle before. -/
theorem references_offered_iff (config : Config) (file : ConfigFile) (recorded : Bool)
    (moves : List Move) (hnames : (start config file recorded).Throughout Naming moves) :
    let first := start config file recorded
    ((∀ earlier, earlier <+: moves → (first.run earlier).Grounded) ↔
        ¬ first.Sometime Belated moves) ∧
      (¬ first.Sometime Belated moves →
        ∀ earlier, earlier <+: moves → ∀ h ∈ (first.run earlier).outputs.heads,
          ∀ m, ¬ h.Offers m →
            .blank m ∈ (arriveMode m h).usableModes ∧ (arriveMode m h).currentMode ≠ some m) := by
  intro first
  have hempty : first.Grounded := by simp [first, Grounded, start, Outputs.empty]
  have hiff := grounded_run_iff hempty (sound_start config file recorded) hnames
  refine ⟨hiff, fun hnever earlier hinitial h hh m hm => ?_⟩
  have hgrounded := hiff.mpr hnever earlier hinitial h hh
  refine ⟨hgrounded.untried hm, fun hcurrent => hm (hgrounded.current m ?_)⟩
  rw [← hcurrent]
  unfold arriveMode Head.addMode
  split <;> rfl

/-- A head is asked to change to its preferred mode, which is withdrawn before the answer comes and
offered again after it. -/
def withdrawnInFlight (outcome : Outcome) : List Move :=
  [.event (.headArrived ⟨1⟩), .event (.modeArrived ⟨1⟩ ⟨10⟩),
    .event (.modeReported ⟨1⟩ ⟨10⟩ (.size 1280 720)), .event (.modeArrived ⟨1⟩ ⟨11⟩),
    .event (.modeReported ⟨1⟩ ⟨11⟩ (.size 3840 2160)),
    .event (.modeReported ⟨1⟩ ⟨11⟩ .preferred), .event (.headReported ⟨1⟩ (.enabled true)),
    .event (.headReported ⟨1⟩ (.currentMode ⟨10⟩)), .event (.managerDone 1), .pass .always,
    .event (.modeFinished ⟨1⟩ ⟨11⟩), .event (.resolved outcome), .event (.modeArrived ⟨1⟩ ⟨11⟩)]

def unconfigured : Session := start .default ⟨"cfg.toml", true, none⟩ false

theorem naming_withdrawnInFlight (outcome : Outcome) :
    unconfigured.Throughout Naming (withdrawnInFlight outcome) := by
  refine ⟨trivial, trivial, trivial, trivial, trivial, trivial, trivial, ?_, trivial, trivial,
    trivial, trivial, trivial, trivial⟩
  simp only [Naming, Head.Offers]
  decide

/-- A cancelled request leaves no trace of the mode. -/
theorem references_offered_iff_withdrawnInFlight :
    unconfigured.Throughout Naming (withdrawnInFlight .cancelled) ∧
      ∀ earlier, earlier <+: withdrawnInFlight .cancelled →
        (unconfigured.run earlier).Grounded := by
  have hnames := naming_withdrawnInFlight .cancelled
  have hnever : ¬ unconfigured.Sometime Belated (withdrawnInFlight .cancelled) := by
    simp [withdrawnInFlight, Sometime, Belated]
  exact ⟨hnames, (references_offered_iff _ _ _ _ hnames).1.mpr hnever⟩

/-- After a failure the mode is remembered as refused though it is not offered, and when its handle
is used again the head does not take the new mode. After a success the head is taken to be in it. -/
theorem withdrawnInFlight_remembered :
    let failed := (unconfigured.run ((withdrawnInFlight .failed).take 12)).outputs
    let succeeded := (unconfigured.run ((withdrawnInFlight .succeeded).take 12)).outputs
    unconfigured.Throughout Naming (withdrawnInFlight .failed) ∧
      unconfigured.Throughout Naming (withdrawnInFlight .succeeded) ∧
      failed.heads.map (fun h => (h.failedModes, h.modes.map (·.id))) = [([⟨11⟩], [⟨10⟩])] ∧
      succeeded.heads.map (fun h => (h.currentMode, h.modes.map (·.id))) =
        [(some ⟨11⟩, [⟨10⟩])] ∧
      (unconfigured.run (withdrawnInFlight .failed)).outputs.heads.map
        (fun h => (h.modes.map (·.id), h.usableModes.map (·.id))) = [([⟨10⟩, ⟨11⟩], [⟨10⟩])] :=
  ⟨naming_withdrawnInFlight .failed, naming_withdrawnInFlight .succeeded, by decide, by decide,
    by decide⟩

end Session

end OutputArranger
