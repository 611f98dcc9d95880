import ClusterRpc.Proofs.Growth
import ClusterRpc.Proofs.Reachable

/-!
# What an exchange does to the world

Over an open channel octets are written and read, the flag may go up meanwhile, and what comes of it
is noted. A relation between worlds that each of these steps stays within is one that an exchange
stays within; and a stream, if handing records over does as well.
-/

namespace ClusterRpc

/-- What an exchange over an open channel leaves behind, apart from the flag that may go up. -/
def Event.isExchange : Event → Bool :=
  isAmong [.write, .read, .shutdown, .request, .reply, .failure, .learn]

/-- A relation between worlds that the steps of an exchange stay within. -/
structure World.Passage (R : World → World → Prop) : Prop where
  refl : ∀ w, R w w
  trans : ∀ {u v w}, R u v → R v w → R u w
  emit : ∀ w e, e.isExchange = true → R w (w.emit e)
  cancel : ∀ w, R w w.cancel

/-- Stays within a relation between worlds. -/
def Link.Within {α : Type} (R : World → World → Prop) (x : Link.Action α) : Prop :=
  ∀ l : Link, R l.world (finalState (x l)).world

namespace World.Passage

section

variable {R : World → World → Prop} (hR : World.Passage R)
include hR

theorem cue (w : World) (cancels : Bool) : R w (w.cue cancels) := by
  cases cancels with
  | false => exact hR.refl w
  | true => exact hR.cancel w

/-! ## The channel -/

theorem bind {α β : Type} {x : Link.Action α} {f : α → Link.Action β} (hx : Link.Within R x)
    (hf : ∀ a, Link.Within R (f a)) : Link.Within R (x >>= f) := by
  intro l
  have h := hx l
  simp only [Bind.bind, EStateM.bind]
  cases hr : x l with
  | ok a l' =>
      rw [hr] at h
      exact hR.trans h (hf a l')
  | error e l' =>
      rw [hr] at h
      exact h

theorem writeSteps (endpoint : String) (w : World) (steps : List (Cued WriteStep))
    (bytes : Bytes) : R w (Link.writeSteps endpoint w steps bytes).2.2 := by
  fun_induction Link.writeSteps endpoint w steps bytes with
  | case1 w steps => exact hR.refl w
  | case2 w bytes => exact hR.emit w _ rfl
  | case3 w step rest bytes => exact hR.trans (hR.emit w _ rfl) (hR.cue _ _)
  | case4 w step rest bytes _ count _ w' _ ih =>
      exact hR.trans (hR.trans (hR.emit w _ rfl) (hR.cue _ _)) ih
  | case5 w step rest bytes _ cause _ w' _ ih => exact hR.trans (hR.cue w _) ih
  | case6 w step => exact hR.cue w _

theorem flushStep (endpoint : String) (w : World) (steps : List (Cued FlushStep)) :
    R w (Link.flushStep endpoint w steps).2.2 := by
  fun_cases Link.flushStep endpoint w steps with
  | case1 => exact hR.refl w
  | case2 step | case3 step => exact hR.cue w _

theorem readRetrying (endpoint : String) (room retries : Nat) (t : Transport) (w : World) :
    R w (Link.readRetrying endpoint room retries t w).2.2 := by
  fun_induction Link.readRetrying endpoint room retries t w with
  | case1 retries t w => exact hR.trans (hR.cue w _) (hR.emit _ _ rfl)
  | case2 t w => exact hR.cue w _
  | case3 t w cancels t' w' cause _ retries _ ih => exact hR.trans (hR.cue w _) ih
  | case4 retries t w => exact hR.cue w _
  | case5 retries t w => exact hR.cue w _

theorem writeAll (bytes : Bytes) : Link.Within R (Link.writeAll bytes) := by
  rintro ⟨channel, world⟩
  cases channel with
  | connected endpoint t =>
      have hwrite := hR.writeSteps endpoint world t.writes bytes
      simp only [Link.writeAll]
      rcases hr : Link.writeSteps endpoint world t.writes bytes with ⟨_ | _, writes, w⟩ <;>
        rw [hr] at hwrite
      · exact hwrite
      · have hflush := hR.flushStep endpoint w t.flushes
        dsimp only
        rcases hf : Link.flushStep endpoint w t.flushes with ⟨_ | _, flushes, w'⟩ <;>
          rw [hf] at hflush <;> exact hR.trans hwrite hflush
  | _ => exact hR.refl world

theorem read (room : Nat) : Link.Within R (Link.read room) := by
  rintro ⟨channel, world⟩
  cases channel with
  | connected endpoint t =>
      have hread := hR.readRetrying endpoint room (Link.retryLimit t.tls) t world
      simp only [Link.read]
      rcases hr : Link.readRetrying endpoint room (Link.retryLimit t.tls) t world with
        ⟨_ | _, t', w⟩ <;> rw [hr] at hread <;> exact hread
  | _ => exact hR.refl world

theorem receive (buffer : ReceiveBuffer) : Link.Within R (Link.receive buffer) := by
  intro l
  fun_induction Link.receive buffer l with
  | case1 => exact hR.refl _
  | case2 buffer l _ e l' h | case3 buffer l _ l' h =>
      have hread := hR.read readChunk l
      rwa [h] at hread
  | case4 buffer l _ chunk l' h _ ih =>
      have hread := hR.read readChunk l
      rw [h] at hread
      exact hR.trans hread ih

/-! ## Exchanges -/

theorem hangUp (c : Client) : R c.world c.hangUp.world := by
  rcases c with ⟨options, channel, directory, handle, lastError, delivered, world⟩
  cases channel with
  | connected endpoint t => exact hR.emit world .shutdown rfl
  | _ => exact hR.refl world

theorem learn (c : Client) (handle : Handle) (block : Option Bytes) (session : Session) :
    R c.world (c.learn handle block session).world := by
  cases block with
  | none => exact hR.refl c.world
  | some block => exact hR.emit c.world (.learn block) rfl

variable {w : World}

theorem onLink {α : Type} {x : Link.Action α} (hx : Link.Within R x) :
    Client.Keeps (fun c => R w c.world) (Client.onLink x) := by
  intro c h
  have hlink := hx c.link
  simp only [Client.onLink]
  cases hr : x c.link <;> rw [hr] at hlink <;> exact hR.trans h hlink

theorem frame (uri : String) (body : Bytes) :
    Client.Keeps (fun c => R w c.world) (Client.frame uri body) := by
  intro c h
  simp only [Client.frame]
  cases c.handle with
  | none => exact h
  | some handle => exact hR.trans h (hR.emit c.world _ rfl)

theorem send (frame : RequestFrame) :
    Client.Keeps (fun c => R w c.world) (Client.send frame) := by
  intro c h
  have hlink := hR.onLink (hR.bind (hR.writeAll frame.head) fun _ => hR.writeAll frame.body) c h
  simp only [Client.send]
  cases hr : Client.onLink (do Link.writeAll frame.head; Link.writeAll frame.body) c with
  | ok _ c' =>
      rw [hr] at hlink
      exact hlink
  | error e c' =>
      rw [hr] at hlink
      exact hR.trans hlink (hR.hangUp c')

theorem takeResponse (raw : Bytes) :
    Client.Keeps (fun c => R w c.world) (Client.takeResponse raw) := by
  intro c h
  simp only [Client.takeResponse]
  cases c.handle with
  | none => exact h
  | some handle =>
      dsimp only
      split <;> rename_i heq <;> split at heq <;> cases heq <;>
        exact hR.trans h (hR.learn c handle _ _)

/-- An exchange over an open channel stays within the relation. -/
theorem transact (uri : String) (body : Bytes) :
    Client.Keeps (fun c => R w c.world) (Client.transact uri body) := by
  refine (hR.frame uri body).bind fun frame => ?_
  have hanswer : Client.Keeps (fun c => R w c.world) (do
      Client.send frame
      let raw ← Client.closing (Client.onLink (Link.receive .empty))
      Client.takeResponse raw) :=
    (hR.send frame).bind fun _ =>
      ((hR.onLink (hR.receive .empty)).closing fun c h => hR.trans h (hR.hangUp c)).bind
        hR.takeResponse
  -- The end of an exchange is one of its steps, too.
  intro c h
  have hanswered := hanswer c h
  simp only [Client.noting]
  cases hr : (do
      Client.send frame
      let raw ← Client.closing (Client.onLink (Link.receive .empty))
      Client.takeResponse raw : Client.Action Reply) c <;> rw [hr] at hanswered
  · exact hR.trans hanswered (hR.emit _ _ rfl)
  · exact hR.trans hanswered (hR.emit _ _ rfl)

/-! ## Streams -/

variable (hdeliver : ∀ w record, R w (w.emit (.deliver record)))
include hdeliver

theorem handOverAll (subscriber : Subscriber) (records : List (Except RpcError Record))
    (c : Client) : R c.world (Client.handOverAll subscriber records c).2.world := by
  have hhand (record : Record) (c : Client) : R c.world (c.handOver subscriber record).world :=
    hR.trans (hdeliver c.world record) (hR.cue _ _)
  fun_induction Client.handOverAll subscriber records c with
  | case1 c | case2 e rest c => exact hR.refl c.world
  | case3 record rest c | case4 record rest c => exact hhand record c
  | case5 record rest c _ _ _ ih => exact hR.trans (hhand record c) ih

/-- Where handing over stays within the relation, pumping does. -/
theorem pump (subscriber : Subscriber) (stream : RecordStream) (c : Client) :
    R c.world (finalState (Client.pump subscriber stream c)).world := by
  have hread {c : Client} {r : EStateM.Result TransportError Link Bytes}
      (h : Link.read readChunk c.link = r) : R c.world (finalState r).world := by
    rw [← h]
    exact hR.read readChunk c.link
  have hhand {c c' : Client} {l : Link} {chunk : Bytes} {handle : Handle} {block : Option Bytes}
      {session : Session} {records : List (Except RpcError Record)}
      {result : Option (Except RpcError StreamOutcome)}
      (hr : Link.read readChunk c.link = .ok chunk l)
      (hd : Client.handOverAll subscriber records ((c.withLink l).learn handle block session) =
        (result, c')) : R c.world c'.world := by
    have hlearnt := hR.trans (hread hr) (hR.learn (c.withLink l) handle block session)
    have hhanded := hR.handOverAll hdeliver subscriber records
      ((c.withLink l).learn handle block session)
    rw [hd] at hhanded
    exact hR.trans hlearnt hhanded
  fun_induction Client.pump subscriber stream c with
  | case1 stream c => exact hR.refl c.world
  | case2 stream c _ e l hr _ ih => exact hR.trans (hread hr) ih
  | case3 stream c _ e l hr | case4 stream c _ l hr | case5 stream c _ chunk l hr => exact hread hr
  | case6 stream c _ chunk l hr _ handle _ fed drained c' c'' hd ih => exact hR.trans (hhand hr hd) ih
  | case7 stream c _ chunk l hr _ handle _ fed drained c' outcome c'' hd
  | case8 stream c _ chunk l hr _ handle _ fed drained c' e c'' hd => exact hhand hr hd

end

end World.Passage

end ClusterRpc
