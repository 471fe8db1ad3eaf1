import Mathlib.Data.List.Induction
import OutputArranger.Config.Watch
import OutputArranger.Proofs.Session.Pass
import OutputArranger.Proofs.Session.Run

/-!
# The session's own writes

A session writes its configuration to a file that is watched. The watcher reads the file some time
after the write, and some time after that the session hears of it, with everything else that happens
to it in between. A configuration that comes back is taken for the session's own when it equals the
one in use by then. If a change was taken over in the meantime it does not, and the session returns
to what it was when it wrote the file.
-/

namespace OutputArranger

namespace ConfigFile

/-- What reading the file anew gives, if there is something to read. -/
def readBack (f : ConfigFile) : Option Config :=
  f.text.bind fun text => (Config.read "" (.text text)).toOption

def held (f : ConfigFile) : FileContent :=
  match f.text with
  | none => .missing
  | some text => .text text

/-- This is what the watcher loads, whatever else there is in the tree of files. -/
theorem reload_eq_loaded_iff {w : ConfigWatch} {t : FileTree} {f : ConfigFile}
    (ht : t.content w.path = f.held) (c : Config) :
    w.reload t = .loaded c ↔ f.readBack = some c := by
  rw [ConfigWatch.reload, ht, held, readBack]
  cases f.text with
  | none => simp
  | some text => cases h : Config.read "" (.text text) <;> simp [h, Except.toOption]

end ConfigFile

/-- A configuration that is read as it was written. -/
def Config.ReadsBack (c : Config) : Prop := (read "" (.text c.saved)).toOption = some c

instance (c : Config) : Decidable c.ReadsBack := inferInstanceAs (Decidable (_ = _))

namespace Session

variable {s : Session}

/-- The configuration of a change that is taken over. -/
def accepted (s : Session) : Move → Option Config
  | .event (.command (.apply command) _) => (s.config.apply command).toOption
  | _ => none

/-- The request to write the configuration to its file. -/
def writing (client : Option Ticket) : Move := .event (.command .writeConfig client)

/-- Unless it hears of the file, a session changes its configuration only when it takes a change
over. -/
theorem config_after {m : Move} (hm : ∀ c, m ≠ .event (.configChanged c)) :
    (s.after m).config = (s.accepted m).getD s.config := by
  cases m with
  | pass accepts => exact (s.sameFrame_layout accepts).config
  | event e =>
      cases e with
      | configChanged c => exact absurd rfl (hm c)
      | lidChanged closed =>
          simp only [after, handle, react, changeLid, accepted]
          split
          · rfl
          · simp only [quiet]
            split <;> rfl
      | command r client =>
          cases r with
          | getConfig => rfl
          | writeConfig =>
              simp only [after, handle, react, control, accepted]
              split <;> rfl
          | apply command =>
              have hsame : (s.record (.command (.apply command) client)).config = s.config := rfl
              simp only [after, handle, react, control, accepted, hsame]
              cases s.config.apply command <;> rfl
      | _ => rfl

theorem config_handle_configChanged (s : Session) (c : Config) :
    (s.handle (.configChanged c)).session.config = if c.same s.config then s.config else c := by
  have hsame : (s.record (.configChanged c)).config = s.config := rfl
  simp only [handle, react, changeConfig, hsame]
  split <;> rfl

/-- The file holds what the session wrote last, if it could. -/
theorem text_after {m : Move} :
    (s.after m).configFile.text = s.configFile.text ∨
      ∃ client, m = writing client ∧ (s.after m).configFile.text = some s.config.saved := by
  have outside {e : Event} {t : Session} (h : FromOutside (s.record e) e t) :
      t.configFile.text = s.configFile.text ∨
        ∃ client, Move.event e = writing client ∧ t.configFile.text = some s.config.saved := by
    cases h with
    | ignored ht => subst ht; exact Or.inl rfl
    | adopting c clients ht => subst ht; exact Or.inl rfl
    | moving closed ht => subst ht; exact Or.inl rfl
    | covering closed ht => subst ht; exact Or.inl rfl
    | writing client he ht =>
        have hfile : t.configFile = s.configFile.write s.config := congrArg configFile ht
        rw [hfile, ConfigFile.write]
        split
        · exact Or.inr ⟨client, congrArg Move.event he, rfl⟩
        · exact Or.inl rfl
  cases m with
  | pass accepts => exact Or.inl (congrArg ConfigFile.text (s.sameFrame_layout accepts).configFile)
  | event e =>
      cases e with
      | configChanged c => exact outside ((s.record _).fromOutside_configChanged c)
      | lidChanged closed => exact outside ((s.record _).fromOutside_lidChanged closed)
      | command r client => exact outside ((s.record _).fromOutside_command r client)
      | _ => exact Or.inl rfl

end Session

/-- A session with a watched file that nobody else writes. -/
structure Watched where
  session : Session
  /-- What was read of the file and the session has not heard of yet. -/
  underway : List Config
  /-- The configuration as the last change that was taken over has left it. -/
  wanted : Config

/-- One thing that happens to a session with a watched file. -/
inductive WatchedMove where
  | own (m : Move)
  /-- The watcher reads the file. -/
  | read
  /-- The session hears of what was read first. -/
  | deliver

namespace Watched

def start (config : Config) (path : String) (writable recorded : Bool) : Watched :=
  ⟨Session.start config ⟨path, writable, none⟩ recorded, [], config⟩

def after (w : Watched) : WatchedMove → Watched
  | .own m => ⟨w.session.after m, w.underway, (w.session.accepted m).getD w.wanted⟩
  | .read => { w with underway := w.underway ++ w.session.configFile.readBack.toList }
  | .deliver =>
      match w.underway with
      | [] => w
      | c :: rest => ⟨(w.session.handle (.configChanged c)).session, rest, w.wanted⟩

def run (w : Watched) (moves : List WatchedMove) : Watched := moves.foldl after w

/-- A delivery of a configuration that the session takes for a new one. -/
def Overwrites (w : Watched) : WatchedMove → Prop
  | .deliver =>
      ∃ c, w.underway.head? = some c ∧ c.same w.session.config = false ∧ c ≠ w.session.config
  | _ => False

variable {w : Watched} {moves : List WatchedMove}

theorem run_concat (w : Watched) (earlier : List WatchedMove) (m : WatchedMove) :
    w.run (earlier ++ [m]) = (w.run earlier).after m := by
  rw [run, List.foldl_append]
  rfl

/-- A session that is as it should be stays so, unless a delivery overwrites its configuration. -/
theorem config_after_iff (hw : w.session.config = w.wanted) {m : WatchedMove}
    (hm : ∀ c, m ≠ .own (.event (.configChanged c))) :
    (w.after m).session.config = (w.after m).wanted ↔ ¬ w.Overwrites m := by
  cases m with
  | own m =>
      have hconfig := w.session.config_after (m := m) fun c h => hm c (h ▸ rfl)
      refine iff_of_true ?_ id
      rw [after, hconfig, hw]
  | read => exact iff_of_true hw id
  | deliver =>
      cases hqueue : w.underway with
      | nil =>
          have hnothing : w.after .deliver = w := by rw [after, hqueue]
          rw [hnothing]
          exact iff_of_true hw (by simp [Overwrites, hqueue])
      | cons c rest =>
          have hheard := w.session.config_handle_configChanged c
          simp only [after, hqueue, Overwrites, List.head?_cons, Option.some.injEq,
            exists_eq_left', hheard, ← hw]
          cases hsame : c.same w.session.config <;> simp

/-! ## What comes back -/

/-- A configuration that the session had when it was told to write it to the file. -/
def Written (w : Watched) (moves : List WatchedMove) (c : Config) : Prop :=
  ∃ before client, before ++ [.own (Session.writing client)] <+: moves ∧
    c = (w.run before).session.config

theorem Written.mono {later : List WatchedMove} {c : Config} (hc : w.Written moves c)
    (hinitial : moves <+: later) : w.Written later c := by
  obtain ⟨before, client, hbefore, heq⟩ := hc
  exact ⟨before, client, hbefore.trans hinitial, heq⟩

/-- Nothing but writing changes what the file holds. -/
theorem text_deliver (w : Watched) :
    (w.after .deliver).session.configFile.text = w.session.configFile.text := by
  rw [after]
  split
  · rfl
  · rename_i c rest _
    rcases w.session.text_after (m := .event (.configChanged c)) with hsame | ⟨_, hwrite, _⟩
    · exact hsame
    · simp [Session.writing] at hwrite

theorem underway_read {c : Config} (htext : w.session.configFile.text = some c.saved)
    (hc : c.ReadsBack) : (w.after .read).underway = w.underway ++ [c] := by
  rw [after, ConfigFile.readBack, htext, Option.bind_some, hc]
  rfl

theorem exists_written_of_text (hempty : w.session.configFile.text = none) {text : String}
    (htext : (w.run moves).session.configFile.text = some text) :
    ∃ c, w.Written moves c ∧ text = c.saved := by
  -- From the end of the run: either its last move has written the text, or an earlier one.
  induction moves using List.reverseRecOn with
  | nil =>
      have hnone : (w.run []).session.configFile.text = none := hempty
      simp [hnone] at htext
  | append_singleton earlier m ih =>
      have older (hsame : (w.run earlier).session.configFile.text = some text) :
          ∃ c, w.Written (earlier ++ [m]) c ∧ text = c.saved := by
        obtain ⟨c, hc, heq⟩ := ih hsame
        exact ⟨c, hc.mono (List.prefix_append earlier [m]), heq⟩
      rw [run_concat] at htext
      cases m with
      | own m =>
          rcases (w.run earlier).session.text_after (m := m) with hsame | ⟨client, rfl, hwritten⟩
          · exact older (hsame.symm.trans htext)
          · exact ⟨_, ⟨earlier, client, List.prefix_rfl, rfl⟩,
              Option.some.inj (htext.symm.trans hwritten)⟩
      | read => exact older htext
      | deliver => exact older ((text_deliver _).symm.trans htext)

/-- What has been read of the file was written to it before, if it is read as it was written. -/
theorem written_of_mem_underway (hempty : w.session.configFile.text = none)
    (hnothing : w.underway = []) (hexact : ∀ c, w.Written moves c → c.ReadsBack) {c : Config}
    (hc : c ∈ (w.run moves).underway) : w.Written moves c := by
  induction moves using List.reverseRecOn with
  | nil =>
      have hnone : (w.run []).underway = [] := hnothing
      simp [hnone] at hc
  | append_singleton earlier m ih =>
      have hinitial := List.prefix_append earlier [m]
      have older (hmem : c ∈ (w.run earlier).underway) : w.Written (earlier ++ [m]) c :=
        (ih (fun d hd => hexact d (hd.mono hinitial)) hmem).mono hinitial
      rw [run_concat] at hc
      cases m with
      | own m => exact older hc
      | read =>
          rcases List.mem_append.mp hc with hold | hnew
          · exact older hold
          · rw [Option.mem_toList, ConfigFile.readBack, Option.bind_eq_some_iff] at hnew
            obtain ⟨text, htext, hread⟩ := hnew
            obtain ⟨d, hd, rfl⟩ := exists_written_of_text hempty htext
            have hlater := hd.mono hinitial
            obtain rfl : c = d := Option.some.inj (hread.symm.trans (hexact d hlater))
            exact hlater
      | deliver =>
          refine older ?_
          rw [after] at hc
          split at hc
          · exact hc
          · rename_i first rest hqueue
            rw [hqueue]
            exact List.mem_cons_of_mem first hc

/-- When the session's own writes leave its configuration alone. Suppose that nobody else writes the
file, and that it is read as it was written. Then whatever the session hears of the file is what its
configuration was when it was told to write it. And its configuration is at every time as the last
change that was taken over has left it, exactly if everything that the session hears of equals its
configuration by then, or is that very configuration. -/
theorem config_eq_wanted_iff (config : Config) (path : String) (writable recorded : Bool)
    (houtside : ∀ c, .own (.event (.configChanged c)) ∉ moves)
    (hexact : ∀ c, (start config path writable recorded).Written moves c → c.ReadsBack) :
    let w := start config path writable recorded
    (∀ earlier, earlier <+: moves → ∀ c ∈ (w.run earlier).underway, w.Written earlier c) ∧
      ((∀ earlier, earlier <+: moves →
          (w.run earlier).session.config = (w.run earlier).wanted) ↔
        ∀ earlier m, earlier ++ [m] <+: moves → ¬ (w.run earlier).Overwrites m) := by
  intro w
  -- Both sides are about the moves one by one, so the last move of every initial part decides.
  have step {earlier : List WatchedMove} {m : WatchedMove} (hinitial : earlier ++ [m] <+: moves)
      (hw : (w.run earlier).session.config = (w.run earlier).wanted) :
      (w.run (earlier ++ [m])).session.config = (w.run (earlier ++ [m])).wanted ↔
        ¬ (w.run earlier).Overwrites m := by
    rw [run_concat]
    refine config_after_iff hw fun c h => houtside c ?_
    exact hinitial.subset (h ▸ List.mem_append_right earlier List.mem_cons_self)
  refine ⟨?_, ?_, ?_⟩
  · intro earlier hinitial c hc
    exact written_of_mem_underway rfl rfl (fun d hd => hexact d (hd.mono hinitial)) hc
  · intro hkept earlier m hinitial
    have hbefore := hkept earlier ((List.prefix_append earlier [m]).trans hinitial)
    exact (step hinitial hbefore).mp (hkept _ hinitial)
  · intro hnever earlier
    induction earlier using List.reverseRecOn with
    | nil => exact fun _ => rfl
    | append_singleton earlier m ih =>
        intro hinitial
        have hbefore := ih ((List.prefix_append earlier [m]).trans hinitial)
        exact (step hinitial hbefore).mpr (hnever earlier m hinitial)

def unwritten : Watched := start .default "cfg.toml" true false

/-- A client changes the alignment. -/
def aligned (a : Align) : WatchedMove :=
  .own (.event (.command (.apply (.setArrangeAlign none (some a))) none))

def heardAtOnce : List WatchedMove :=
  [aligned .middle, .own (Session.writing none), .read, .deliver, aligned .bottom]

def heardLate : List WatchedMove :=
  [aligned .middle, .own (Session.writing none), .read, aligned .bottom, .deliver]

theorem concat_prefix_cons {before rest : List WatchedMove} {m first : WatchedMove} :
    before ++ [m] <+: first :: rest ↔
      before = [] ∧ m = first ∨ ∃ between, before = first :: between ∧ between ++ [m] <+: rest := by
  cases before with
  | nil => simp
  | cons a between => simp [List.cons_prefix_cons, eq_comm, and_comm]

theorem middle_readsBack : (unwritten.run [aligned .middle]).session.config.ReadsBack := by
  decide +kernel

theorem written_once {rest : List WatchedMove}
    (hrest : ∀ client, .own (Session.writing client) ∉ rest) {c : Config}
    (hc : unwritten.Written (aligned .middle :: .own (Session.writing none) :: rest) c) :
    c = (unwritten.run [aligned .middle]).session.config := by
  obtain ⟨before, client, hbefore, rfl⟩ := hc
  rcases concat_prefix_cons.mp hbefore with ⟨_, hfirst⟩ | ⟨between, rfl, hlater⟩
  · simp [aligned, Session.writing] at hfirst
  · rcases concat_prefix_cons.mp hlater with ⟨rfl, _⟩ | ⟨others, _, hothers⟩
    · rfl
    · exact absurd (hothers.subset (List.mem_append_right others List.mem_cons_self)) (hrest client)

/-- A write of which the session hears before the next change changes nothing. -/
theorem config_eq_wanted_iff_heardAtOnce :
    (∀ c, .own (.event (.configChanged c)) ∉ heardAtOnce) ∧
      (∀ c, unwritten.Written heardAtOnce c → c.ReadsBack) ∧
      ∀ earlier, earlier <+: heardAtOnce →
        (unwritten.run earlier).session.config = (unwritten.run earlier).wanted := by
  have houtside (c : Config) : .own (.event (.configChanged c)) ∉ heardAtOnce := by
    simp [heardAtOnce, aligned, Session.writing]
  have honly (c : Config) (hc : unwritten.Written heardAtOnce c) :
      c = (unwritten.run [aligned .middle]).session.config :=
    written_once (by simp [aligned, Session.writing]) hc
  have hexact (c : Config) (hc : unwritten.Written heardAtOnce c) : c.ReadsBack :=
    honly c hc ▸ middle_readsBack
  obtain ⟨hwritten, hiff⟩ := config_eq_wanted_iff _ _ _ _ houtside hexact
  refine ⟨houtside, hexact, hiff.mpr ?_⟩
  intro earlier m hinitial hover
  cases m with
  | own m => exact hover
  | read => exact hover
  | deliver =>
      obtain ⟨c, hfirst, _, hne⟩ := hover
      have hbefore : earlier <+: heardAtOnce := (List.prefix_append earlier _).trans hinitial
      have hc := hwritten earlier hbefore c (List.mem_of_head? hfirst)
      refine hne ((honly c (hc.mono hbefore)).trans ?_)
      simp [heardAtOnce, concat_prefix_cons, aligned] at hinitial
      rw [hinitial]
      rfl

/-- If the session hears of a write after the next change, it returns to what it has written. -/
theorem heardLate_overwritten :
    (∀ c, .own (.event (.configChanged c)) ∉ heardLate) ∧
      (∀ c, unwritten.Written heardLate c → c.ReadsBack) ∧
      (unwritten.run heardLate).session.config = { Config.default with align := .middle } ∧
      (unwritten.run heardLate).wanted = { Config.default with align := .bottom } := by
  have hqueue : (unwritten.run (heardLate.take 4)).underway =
      [(unwritten.run [aligned .middle]).session.config] :=
    underway_read (w := unwritten.run (heardLate.take 2)) rfl middle_readsBack
  have hlast : unwritten.run heardLate = (unwritten.run (heardLate.take 4)).after .deliver :=
    unwritten.run_concat (heardLate.take 4) .deliver
  rw [hlast, after, hqueue]
  refine ⟨?_, fun c hc => ?_, ?_, ?_⟩
  · simp [heardLate, aligned, Session.writing]
  · rw [written_once (by simp [aligned, Session.writing]) hc]
    exact middle_readsBack
  · rw [Session.config_handle_configChanged]
    decide +kernel
  · decide +kernel

end Watched

end OutputArranger
