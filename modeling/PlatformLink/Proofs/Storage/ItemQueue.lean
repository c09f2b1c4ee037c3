import PlatformLink.Proofs.RoundTrip
import PlatformLink.Proofs.Storage.Conservation

/-!
# Items in a queue

An item is added as its JSON text, and each message is delivered as it was added. So an item comes
back as it was added just when its text is decoded as the item: when it is not nested deeper than a
reader allows, and no member of any JSON that may be missing holds `null`. Nothing of this is looked
at when an item is added.
-/

namespace PlatformLink.Storage

/-! ## The delivery of a message -/

namespace Ledger

/-- The ticket that a take delivered at some place, takes and places being counted from 0. -/
def ticket? (l : Ledger) (take place : Nat) : Option Ticket :=
  l.delivered[take]?.bind (·[place]?)

theorem mem_delivered_of_ticket? {l : Ledger} {take place : Nat} {t : Ticket}
    (h : l.ticket? take place = some t) : t ∈ l.delivered.flatten := by
  obtain ⟨ts, hts, ht⟩ := Option.bind_eq_some_iff.mp h
  exact List.mem_flatten.mpr ⟨ts, List.mem_of_getElem? hts, List.mem_of_getElem? ht⟩

end Ledger

namespace QueueRun

variable {r : QueueRun}

/-- What a take gave at some place. -/
def content? (r : QueueRun) (take place : Nat) : Option String :=
  (r.history.filterMap (·.effect.contents?))[take]?.bind (·[place]?)

/-- A take gave the message that was accepted under a number. -/
def Delivers (r : QueueRun) (number : Nat) (content : String) : Prop :=
  ∃ take place, r.content? take place = some content ∧
    (r.ledger.ticket? take place).map (·.number) = some number

theorem content?_eq (h : r.Faithful) (take place : Nat) :
    r.content? take place = (r.ledger.ticket? take place).map (·.message.content) := by
  rw [content?, ← h.delivered, Ledger.ticket?, List.getElem?_map]
  cases r.ledger.delivered[take]? with
  | none => rfl
  | some ts => exact List.getElem?_map

/-- A message is delivered as it was accepted. -/
theorem Delivers.content_eq (hfaithful : r.Faithful) {number : Nat} {content : String}
    (h : r.Delivers number content) {t : Ticket} (ht : r.ledger.accepted[number]? = some t) :
    content = t.message.content := by
  obtain ⟨take, place, hcontent, hnumber⟩ := h
  obtain ⟨u, hu, rfl⟩ := Option.map_eq_some_iff.mp hnumber
  have haccepted := r.sound_ledger.mem_accepted_of_mem_delivered
    (Ledger.mem_delivered_of_ticket? hu)
  rw [r.sound_ledger.getElem?_number haccepted] at ht
  rw [content?_eq hfaithful, hu, Option.map_some] at hcontent
  rw [← Option.some.inj hcontent, Option.some.inj ht]

/-- What was added is accepted under the next number, and stays so. -/
theorem accepted_add {now : Nat} {content : String} {delay : Option Duration}
    (h : (r.queue.add now content delay).1 = .ok ()) (more : List QueueCall) :
    ((r.step (.add now content delay)).run more).ledger.accepted[r.ledger.accepted.length]? =
      some ⟨r.ledger.accepted.length, content, now + (delay.getD ⟨0⟩).nanoseconds⟩ := by
  have hledger : (r.step (.add now content delay)).ledger =
      r.ledger.accept ⟨content, now + (delay.getD ⟨0⟩).nanoseconds⟩ := by
    rw [step, ledger_concat, MemoryQueue.respond, h]
    rfl
  obtain ⟨later, hlater⟩ := (lasts_ledger_run (r.step (.add now content delay)) more).accepted
  rw [← hlater, hledger, Ledger.accept, List.append_assoc,
    List.getElem?_append_right (Nat.le_refl _), Nat.sub_self]
  rfl

end QueueRun

/-! ## Items -/

open Json (greatestDepth)

theorem decodeItem_eq_ok_iff {α : Type} (codec : Json.Codec α) (q : MemoryQueue) (content : String)
    (x : α) : q.decodeItem codec content = .ok x ↔ codec.decode content = .ok x :=
  mapError_eq_ok_iff

/-- An item that was added comes back as it was just when it is not nested too deeply and holds
`null` for no member of any JSON that may be missing. Of the item only what its type guarantees is
supposed: its objects are sorted by key; and it holds no floating point number. -/
theorem delivered_item_iff : ∀ T ∈ ItemType.all, ∀ (name : String) (calls more : List QueueCall)
    (now : Nat) (delay : Option Duration) (x : T.Value) (content : String),
    let r := QueueRun.after name calls
    (T.codec.toJson x).Sorted → (T.codec.toJson x).Whole →
    (r.queue.addItem T.codec now x delay).1 = .ok () →
    ((r.step (.add now (T.codec.write x) delay)).run more).Delivers r.ledger.accepted.length
      content →
    (r.queue.decodeItem T.codec content = .ok x ↔
      (T.codec.toJson x).Within greatestDepth ∧ some .null ∉ T.optionals x) := by
  intro T hT name calls more now delay x content r hsorted hwhole hadd hdelivers
  have hfaithful := QueueRun.faithful_run
    (QueueRun.faithful_step r (.add now (T.codec.write x) delay)
      (QueueRun.faithful_after name calls)) more
  have hcontent : content = T.codec.write x :=
    hdelivers.content_eq hfaithful (QueueRun.accepted_add hadd more)
  rw [decodeItem_eq_ok_iff, hcontent]
  exact (ItemType.faithful_of_mem_all T hT).decode_write_iff (by decide) hsorted hwhole

/-- An array is added after another message, and comes back in the second take. -/
theorem delivered_item_iff_array :
    let T := ItemType.closed (.plain .json)
    let x : Json := .arr [.null, .str "a"]
    let r := QueueRun.after "q" [.create, .add 0 "m" none]
    T ∈ ItemType.all ∧ (T.codec.toJson x).Sorted ∧ (T.codec.toJson x).Whole ∧
      (r.queue.addItem T.codec 0 x none).1 = .ok () ∧
      ((r.step (.add 0 (T.codec.write x) none)).run [.take 0 1, .take 1 9]).Delivers
        r.ledger.accepted.length "[null,\"a\"]" ∧
      (r.queue.decodeItem T.codec "[null,\"a\"]" = .ok x ↔
        (T.codec.toJson x).Within greatestDepth ∧ some .null ∉ T.optionals x) := by
  intro T x r
  have hT : T ∈ ItemType.all := List.mem_cons_self
  have hsorted : (T.codec.toJson x).Sorted :=
    .arr (List.forall_mem_cons.mpr ⟨.null, List.forall_mem_cons.mpr ⟨.str "a", nofun⟩⟩)
  have hwhole : (T.codec.toJson x).Whole :=
    .arr (List.forall_mem_cons.mpr ⟨.null, List.forall_mem_cons.mpr ⟨.str "a", nofun⟩⟩)
  have hwrite : T.codec.write x = "[null,\"a\"]" := by
    show (Json.arr [.null, .str "a"]).write = _
    decide +kernel
  have hadd : (r.queue.addItem T.codec 0 x none).1 = .ok () := by
    show (r.queue.add 0 (T.codec.write x) none).1 = .ok ()
    rw [hwrite]
    rfl
  have hdelivers : ((r.step (.add 0 (T.codec.write x) none)).run [.take 0 1, .take 1 9]).Delivers
      r.ledger.accepted.length "[null,\"a\"]" := by
    rw [hwrite]
    exact ⟨1, 0, by decide, by decide⟩
  exact ⟨hT, hsorted, hwhole, hadd, hdelivers,
    delivered_item_iff T hT "q" _ _ 0 none x _ hsorted hwhole hadd hdelivers⟩

open Workflow (Instance)

/-- An instance with a result that is `null`, as it is written. -/
def nullResultText : String :=
  "\x7b\"id\":\"i\",\"versionId\":\"v\",\"title\":\"t\",\"state\":\"Success\",\"result\":null\x7d"

/-- A result that is `null` is added, and comes back missing. -/
theorem null_result_lost :
    let x : Instance := ⟨"i", "v", "t", .success, some .null⟩
    let r := QueueRun.after "q" [.create]
    (r.queue.addItem Instance.codec 0 x none).1 = .ok () ∧
      ((r.step (.add 0 (Instance.codec.write x) none)).run [.take 0 1]).Delivers
        r.ledger.accepted.length (Instance.codec.write x) ∧
      r.queue.decodeItem Instance.codec (Instance.codec.write x) = .ok { x with result := none } ∧
      r.queue.decodeItem Instance.codec (Instance.codec.write x) ≠ .ok x := by
  have hwrite : Instance.codec.write ⟨"i", "v", "t", .success, some .null⟩ = nullResultText := by
    decide +kernel
  have hdecode : Instance.codec.decode nullResultText = .ok ⟨"i", "v", "t", .success, none⟩ :=
    Instance.decode_eq_ok_of_none (by decide +kernel)
  intro x r
  have hlost : r.queue.decodeItem Instance.codec (Instance.codec.write x) =
      .ok { x with result := none } := by
    rw [decodeItem_eq_ok_iff, hwrite]
    exact hdecode
  refine ⟨?_, ?_, hlost, ?_⟩
  · show (r.queue.add 0 (Instance.codec.write x) none).1 = .ok ()
    rw [hwrite]
    rfl
  · rw [hwrite]
    exact ⟨0, 0, by decide, by decide⟩
  · rw [hlost]
    intro heq
    have hresult : (none : Option Json) = some .null := congrArg Instance.result (Except.ok.inj heq)
    cases hresult

end PlatformLink.Storage
