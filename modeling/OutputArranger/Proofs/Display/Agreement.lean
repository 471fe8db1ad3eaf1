import OutputArranger.Proofs.Display.KnownObjects
import OutputArranger.Proofs.RequestShape

/-!
# The client and the session agree

The client keeps the objects that the compositor has announced, the session keeps a model of them,
and between the two there is a queue of events. Messages come in at one end while the session takes
events from the other end, computes the layout and sends requests through the client. Once the queue
is empty, both have the same heads and modes, so that no request names what the client does not
have.
-/

namespace OutputArranger

/-- Whether an event is news of the display; the others come from the user. -/
def Event.fromDisplay : Event → Bool
  | .configChanged _ => false
  | .lidChanged _ => false
  | .command _ _ => false
  | _ => true

/-- A compositor, its client and a session. -/
structure Exchange where
  announced : Announced
  client : DisplayClient
  session : Session

inductive ExchangeMove where
  /-- The compositor says something. -/
  | said (m : CompositorMessage)
  /-- The session takes the first event from the queue. -/
  | taken
  /-- The user does something. -/
  | user (e : Event)
  /-- A pass sends its request through the client, which may fail to write it. -/
  | pass (written : Option SessionError)

namespace Exchange

def start (config : Config) (file : ConfigFile) (recorded : Bool) : Exchange :=
  ⟨.empty, .start, .start config file recorded⟩

def after (x : Exchange) : ExchangeMove → Exchange
  | .said m =>
      { x with announced := x.announced.after m, client := (x.client.handle m).client }
  | .taken =>
      match x.client.events with
      | [] => x
      | e :: rest =>
          { x with
            client := { x.client with events := rest }
            session := (x.session.handle e).session }
  | .user e => { x with session := (x.session.handle e).session }
  | .pass written =>
      let pass := x.session.layout fun r => (x.client.submit r).error <|> written
      let client := match pass.sent with
        | some r => (x.client.submit r).client
        | none => x.client
      { x with client := client, session := pass.session }

def run (x : Exchange) (moves : List ExchangeMove) : Exchange := moves.foldl after x

/-- Whether a move is possible: the compositor keeps to its objects, and the user has no news of
the display. -/
def allows (x : Exchange) : ExchangeMove → Bool
  | .said m => x.announced.permits m
  | .user e => !e.fromDisplay
  | _ => true

def allowsAll (x : Exchange) : List ExchangeMove → Bool
  | [] => true
  | m :: rest => x.allows m && (x.after m).allowsAll rest

/-- Handling the events in the queue will make the session agree with the client. -/
structure Agrees (x : Exchange) : Prop where
  reachable : x.session.Reachable
  knows : x.client.Knows x.announced
  queued : x.client.events.foldl (fun i e => e.alter i) x.session.outputs.inventory =
    x.client.inventory

variable {x : Exchange}

theorem agrees_start (config : Config) (file : ConfigFile) (recorded : Bool) :
    (start config file recorded).Agrees :=
  ⟨⟨config, file, recorded, [], rfl⟩,
    ⟨by simp [start, Announced.empty, DisplayClient.start, DisplayClient.headIds],
      by simp [start, DisplayClient.start], by simp [start, DisplayClient.start],
      List.nodup_nil, by simp [start, DisplayClient.start]⟩, rfl⟩

theorem Agrees.said (h : x.Agrees) {m : CompositorMessage} (hm : x.announced.permits m = true) :
    (x.after (.said m)).Agrees := by
  obtain ⟨hknows, events, hevents, htold⟩ := h.knows.follows_handle hm
  refine ⟨h.reachable, hknows, ?_⟩
  simp only [after, hevents, List.foldl_append, h.queued]
  exact htold

theorem Agrees.taken (h : x.Agrees) : (x.after .taken).Agrees := by
  cases hevents : x.client.events with
  | nil =>
      simp only [after, hevents]
      exact h
  | cons e rest =>
      have hqueued := h.queued
      rw [hevents, List.foldl_cons, ← Session.inventory_handle h.reachable e] at hqueued
      simp only [after, hevents]
      exact ⟨h.reachable.run [.event e],
        ⟨h.knows.head, h.knows.mode, h.knows.owner, h.knows.distinct, h.knows.heard⟩, hqueued⟩

/-- What leaves the tables, the queue and the inventory alone keeps the agreement. -/
theorem Agrees.aside (h : x.Agrees) {c : DisplayClient} {s : Session} (hs : s.Reachable)
    (hinventory : s.outputs.inventory = x.session.outputs.inventory)
    (hc : c.heads = x.client.heads ∧ c.modes = x.client.modes ∧
      c.givenBack = x.client.givenBack ∧ c.events = x.client.events) :
    Agrees ⟨x.announced, c, s⟩ := by
  obtain ⟨hheads, hmodes, hgone, hevents⟩ := hc
  have hsame := h.knows.follows_aside hheads hmodes hgone
    (hevents.trans (List.append_nil _).symm) (by simp)
  refine ⟨hs, hsame.knows, ?_⟩
  rw [hevents, hinventory, DisplayClient.inventory_congr hheads hmodes]
  exact h.queued

theorem alter_of_user {e : Event} (he : e.fromDisplay = false) (i : Inventory) :
    e.alter i = i := by
  cases e <;> first | rfl | simp [Event.fromDisplay] at he

theorem Agrees.user (h : x.Agrees) {e : Event} (he : e.fromDisplay = false) :
    (x.after (.user e)).Agrees := by
  refine h.aside (h.reachable.run [.event e]) ?_ ⟨rfl, rfl, rfl, rfl⟩
  rw [Session.inventory_handle h.reachable, alter_of_user he]

theorem submit_aside (c : DisplayClient) (r : Request) :
    (c.submit r).client.heads = c.heads ∧ (c.submit r).client.modes = c.modes ∧
      (c.submit r).client.givenBack = c.givenBack ∧ (c.submit r).client.events = c.events := by
  unfold DisplayClient.submit
  split
  · exact ⟨rfl, rfl, rfl, rfl⟩
  · dsimp only
    split <;> exact ⟨rfl, rfl, rfl, rfl⟩

theorem Agrees.pass (h : x.Agrees) (written : Option SessionError) :
    (x.after (.pass written)).Agrees := by
  refine h.aside (h.reachable.layout _) (Session.inventory_layout _ _) ?_
  split
  · exact submit_aside _ _
  · exact ⟨rfl, rfl, rfl, rfl⟩

theorem Agrees.run (h : x.Agrees) {moves : List ExchangeMove} (hmoves : x.allowsAll moves = true) :
    (x.run moves).Agrees := by
  induction moves generalizing x with
  | nil => exact h
  | cons m rest ih =>
      rw [allowsAll, Bool.and_eq_true] at hmoves
      refine ih ?_ hmoves.2
      cases m with
      | said m => exact h.said hmoves.1
      | taken => exact h.taken
      | user e => exact h.user (by simpa [allows] using hmoves.1)
      | pass written => exact h.pass written

/-! ## An empty queue -/

theorem Agrees.inventory (h : x.Agrees) (hempty : x.client.events = []) :
    x.session.outputs.inventory = x.client.inventory := by
  have hqueued := h.queued
  rw [hempty] at hqueued
  exact hqueued

theorem Agrees.mem_ids_iff (h : x.Agrees) (hempty : x.client.events = []) {id : HeadId} :
    id ∈ x.session.outputs.ids ↔ (x.client.knownHead? id).isSome = true := by
  rw [Outputs.ids_eq_map_inventory, h.inventory hempty, DisplayClient.map_fst_inventory,
    DisplayClient.mem_headIds_iff]

theorem Agrees.modes (h : x.Agrees) (hempty : x.client.events = []) {g : Head}
    (hg : g.listed ∈ x.session.outputs.inventory) :
    g.modes.map (·.id) = x.client.modesOf g.id := by
  rw [h.inventory hempty] at hg
  obtain ⟨id, _, heq⟩ := List.mem_map.mp hg
  obtain ⟨rfl, hmodes⟩ := Prod.mk.inj heq
  exact hmodes.symm

theorem configure_complete {c : DisplayClient} {entries : List HeadRequest}
    (hheads : ∀ entry ∈ entries, (c.knownHead? entry.head).isSome = true)
    (hmodes : ∀ h m, HeadRequest.mode h m ∈ entries → (c.knownMode? m).isSome = true) :
    (c.configure entries).2 = none := by
  induction entries with
  | nil => rfl
  | cons entry rest ih =>
      have hrest := ih (fun e he => hheads e (List.mem_cons_of_mem _ he))
        fun h m he => hmodes h m (List.mem_cons_of_mem _ he)
      obtain ⟨known, hknown⟩ := Option.isSome_iff_exists.mp (hheads entry List.mem_cons_self)
      obtain ⟨messages, hok⟩ : ∃ messages, c.entryMessages entry = .ok messages := by
        unfold DisplayClient.entryMessages
        rw [hknown]
        cases entry with
        | mode h m => exact ⟨_, if_pos (hmodes h m List.mem_cons_self)⟩
        | enable h scale x y t => exact ⟨_, rfl⟩
        | disable h => exact ⟨_, rfl⟩
      rw [DisplayClient.configure, hok]
      exact hrest

/-- A request that is planned names only what the client has. -/
theorem Agrees.configure (h : x.Agrees) (hempty : x.client.events = [])
    (hc : x.session.computes) {r : Request}
    (hplan : Request.plan x.session.aimed.outputs.heads x.session.aimed.outputs.serial = some r) :
    (x.client.configure r.heads).2 = none := by
  have hlisted : x.session.aimed.outputs.heads.map Head.listed = x.session.outputs.inventory := by
    have hview : Session.IgnoresNotes Head.listed := fun _ _ _ _ _ _ _ => rfl
    exact hview.map_aimed x.session
  have hids : x.session.aimed.outputs.heads.map (·.id) = x.session.outputs.ids := by
    rw [Outputs.ids_eq_map_inventory, ← hlisted, List.map_map]
    rfl
  apply configure_complete
  · intro entry hentry
    rw [← h.mem_ids_iff hempty, ← hids]
    exact (Request.sublist_of_plan hplan).2.subset (List.mem_map_of_mem hentry)
  · intro id m hentry
    rcases Request.shape_of_plan (h.reachable.sound.aimed_heads hc.1) hplan with
      ⟨g, n, hmode⟩ | hbundle
    · rw [hmode.alone, List.mem_singleton, HeadRequest.mode.injEq] at hentry
      have hg : g.listed ∈ x.session.outputs.inventory :=
        hlisted ▸ List.mem_map_of_mem (List.mem_of_find?_eq_some hmode.first)
      have hn : n.id ∈ g.modes.map (·.id) := List.mem_map_of_mem hmode.offered
      rw [h.modes hempty hg, ← hentry.2] at hn
      obtain ⟨k, hk, _⟩ := h.knows.mem_modesOf_iff.mp hn
      rw [hk, Option.isSome_some]
    · exact absurd hentry (hbundle.no_mode id m)

theorem submit_complete {c : DisplayClient} (hmanager : c.manager.isSome = true) {r : Request}
    (hconfigure : (c.configure r.heads).2 = none) : (c.submit r).error = none := by
  obtain ⟨name, hname⟩ := Option.isSome_iff_exists.mp hmanager
  simp only [DisplayClient.submit, hname, hconfigure]

/-- Once every event has been handled, the client and the session have the same heads with the same
modes, and the client can carry out every request of a pass. -/
theorem client_agrees (config : Config) (file : ConfigFile) (recorded : Bool)
    {moves : List ExchangeMove} (hmoves : (start config file recorded).allowsAll moves = true)
    (hempty : ((start config file recorded).run moves).client.events = []) :
    let x := (start config file recorded).run moves
    (∀ id, (x.client.knownHead? id).isSome = true ↔ ∃ h ∈ x.session.outputs.heads, h.id = id) ∧
      (∀ h ∈ x.session.outputs.heads, ∀ m,
        (∃ k, x.client.knownMode? m = some k ∧ k.owner = h.id) ↔ ∃ n ∈ h.modes, n.id = m) ∧
      (∀ m k, x.client.knownMode? m = some k → ∃ h ∈ x.session.outputs.heads, h.id = k.owner) ∧
      (x.client.manager.isSome = true →
        (∀ r, (x.session.layout .always).sent = some r →
          (x.client.configure r.heads).2 = none ∧ (x.client.submit r).error = none) ∧
        (x.session.layout fun r => (x.client.submit r).error).error = none) := by
  intro x
  have h : x.Agrees := (agrees_start config file recorded).run hmoves
  have hheads (id : HeadId) :
      (x.client.knownHead? id).isSome = true ↔ ∃ h ∈ x.session.outputs.heads, h.id = id := by
    rw [← h.mem_ids_iff hempty, Outputs.ids, List.mem_map]
  refine ⟨hheads, ?_, ?_, ?_⟩
  · intro g hg m
    rw [← h.knows.mem_modesOf_iff, ← h.modes hempty (List.mem_map_of_mem hg), List.mem_map]
  · intro m k hk
    rw [← hheads, ← DisplayClient.mem_headIds_iff]
    exact h.knows.owner k (List.mem_of_find?_eq_some hk)
  · intro hmanager
    constructor
    · intro r hsent
      obtain ⟨hc, hplan⟩ := Session.plan_of_sent hsent
      have hconfigure := h.configure hempty hc hplan
      exact ⟨hconfigure, submit_complete hmanager hconfigure⟩
    · cases x.session.layout_ending fun r => (x.client.submit r).error with
      | refused r e hc hplan herror =>
          rw [submit_complete hmanager (h.configure hempty hc hplan)] at herror
          simp at herror
      | waiting _ _ _ herror => exact herror
      | standingBack _ _ _ herror => exact herror
      | resting _ _ _ _ _ herror => exact herror
      | agreeing _ _ _ _ herror => exact herror
      | sending _ _ _ _ _ _ herror => exact herror

/-- A head is withdrawn before its mode is, another one gets its number, and only then the
compositor says the last of the mode of the first head. -/
def sameNumber : List ExchangeMove :=
  [.said (.global 7 DisplayClient.managerInterface 4), .said (.newHead ⟨1⟩),
    .said (.head ⟨1⟩ (.mode ⟨10⟩)), .said (.mode ⟨10⟩ (.size 1280 720)), .taken, .taken,
    .said (.done 1), .said (.head ⟨1⟩ .finished), .said (.newHead ⟨1⟩), .taken,
    .said (.mode ⟨10⟩ (.size 640 480)), .said (.head ⟨1⟩ (.mode ⟨11⟩)),
    .said (.mode ⟨11⟩ (.size 1920 1080)), .taken, .user (.lidChanged false), .pass none,
    .said (.mode ⟨10⟩ .finished), .said (.done 2), .taken, .taken, .taken, .taken, .taken]

theorem client_agrees_sameNumber :
    let x := (start .default ⟨"cfg.toml", true, none⟩ false).run sameNumber
    (start .default ⟨"cfg.toml", true, none⟩ false).allowsAll sameNumber = true ∧
      x.client.events = [] ∧ x.client.manager.isSome = true ∧
      (x.session.layout .always).sent = some ⟨2, [.mode ⟨1⟩ ⟨11⟩]⟩ ∧
      (x.client.configure [.mode ⟨1⟩ ⟨11⟩]).2 = none := by
  have hmoves : (start .default ⟨"cfg.toml", true, none⟩ false).allowsAll sameNumber = true := by
    decide
  have hempty : ((start .default ⟨"cfg.toml", true, none⟩ false).run sameNumber).client.events =
      [] := by
    decide
  obtain ⟨_, _, _, hrequests⟩ := client_agrees _ _ _ hmoves hempty
  intro x
  have hmanager : x.client.manager.isSome = true := by decide
  have hsent : (x.session.layout .always).sent = some ⟨2, [.mode ⟨1⟩ ⟨11⟩]⟩ := by decide
  exact ⟨hmoves, hempty, hmanager, hsent, ((hrequests hmanager).1 _ hsent).1⟩

end Exchange

end OutputArranger
