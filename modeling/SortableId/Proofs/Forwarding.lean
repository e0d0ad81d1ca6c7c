import Mathlib
import SortableId.Pool.Source
import SortableId.Proofs.Calls
import SortableId.Proofs.Fill

/-!
# Sources passed on in layers

A byte source passed on by reference, in a box or by a generator that is read as a plain source, in
any number of layers, is transparent: each request, also the native bounded one, reaches the source
at the core and is answered by it, and the memory of no generator on the way changes. So every
computation of requests runs through the layers as on the core, and a monotonic generator over the
layers gives the stream of one over the core.
-/

namespace SortableId

variable {σ τ ι α β κ : Type}

/-- An answer through layers next to the answer of their core to the same request. -/
structure Mirrors (core : τ → σ) (memory : τ → ι) (source : τ) (outer : α × τ) (inner : α × σ) :
    Prop where
  /-- The answers are the same, and the layers are left around what the core becomes. -/
  same : inner = (outer.1, core outer.2)
  /-- The memory in the layers stays. -/
  stays : memory outer.2 = memory source

namespace Mirrors

variable {core : τ → σ} {memory : τ → ι} {source after : τ} {outer : α × τ} {inner : α × σ}

/-- What mirrors from a later state of the same memory mirrors from the state before. -/
theorem before (mirrors : Mirrors core memory after outer inner)
    (stays : memory after = memory source) : Mirrors core memory source outer inner :=
  ⟨mirrors.same, mirrors.stays.trans stays⟩

/-- A change of both answers keeps them the same. -/
theorem map (change : α → β) (mirrors : Mirrors core memory source outer inner) :
    Mirrors core memory source (change outer.1, outer.2) (change inner.1, inner.2) := by
  obtain ⟨rfl, stays⟩ := mirrors
  exact ⟨rfl, stays⟩

/-- Requests that mirror one by one mirror one after another. -/
theorem answers (outer : κ → τ → α × τ) (inner : κ → σ → α × σ)
    (step : ∀ call source,
      Mirrors core memory source (outer call source) (inner call (core source)))
    (calls : List κ) (source : τ) :
    Mirrors core memory source (SortableId.answers outer calls source)
      (SortableId.answers inner calls (core source)) := by
  induction calls generalizing source with
  | nil => exact ⟨rfl, rfl⟩
  | cons call calls ih =>
    obtain ⟨first, stays⟩ := step call source
    have rest := (ih (outer call source).2).before stays
    rw [answers_cons, answers_cons, first]
    exact rest.map ((outer call source).1 :: ·)

end Mirrors

/-- A source whose every request is answered by the source at its core. -/
structure Transparent [ByteSource τ] [ByteSource σ] (core : τ → σ) (memory : τ → ι) : Prop where
  /-- Bytes are those of the core. -/
  fill : ∀ size source,
    Mirrors core memory source (ByteSource.fill size source) (ByteSource.fill size (core source))
  /-- A bounded number is that of the core. -/
  below : ∀ bound source,
    Mirrors core memory source (ByteSource.below bound source)
      (ByteSource.below bound (core source))
  /-- A bounded request crashes as that of the core. -/
  crash : ∀ bound source, ByteSource.belowCrash bound (core source) =
    ByteSource.belowCrash bound source

/-- What comes back from a request. -/
inductive Response where
  /-- Bytes, or how the read ended without them. -/
  | bytes (outcome : Outcome (List UInt8))
  /-- A bounded number if there is a native primitive, or the text it crashed with. -/
  | bounded (answer : Except String (Option UInt64))

/-- What comes back from a request, and the source afterwards. -/
def Request.respond [ByteSource τ] : Request → τ → Response × τ
  | fill size, source =>
    let (outcome, source) := ByteSource.fill size source
    (.bytes (outcome.map Vector.toList), source)
  | below bound, source =>
    (.bounded (ByteSource.pick bound source), (ByteSource.below bound source).2)

/-- A generator with its source in place of the layers around that. -/
def Generator.over (core : τ → σ) (generator : Generator τ) : Generator σ :=
  ⟨generator.toCounter, core generator.source⟩

namespace Transparent

/-- A source is transparent for itself. -/
theorem bare [ByteSource σ] :
    Transparent (fun source : σ => source) (fun _ => ([] : List Counter)) :=
  ⟨fun _ _ => ⟨rfl, rfl⟩, fun _ _ => ⟨rfl, rfl⟩, fun _ _ => rfl⟩

variable [ByteSource τ] [ByteSource σ] {core : τ → σ} {memory : τ → ι}

/-- A reference to a transparent source, or a box with one, is transparent. -/
theorem forwarded (transparent : Transparent core memory) :
    Transparent (fun source : Forwarded τ => core source.inner)
      (fun source => memory source.inner) where
  fill size source :=
    have inside := transparent.fill size source.inner
    ⟨inside.same, inside.stays⟩
  below bound source :=
    have inside := transparent.below bound source.inner
    ⟨inside.same, inside.stays⟩
  crash bound source := transparent.crash bound source.inner

/-- Only the bytes of a source are transparent exactly if the source has no native bounded number:
a layer that forgets to pass that request on hides it. -/
theorem bytesOnly_iff : Transparent (fun source : BytesOnly σ => source.inner) (fun _ => ()) ↔
    ∀ bound (source : σ), ByteSource.below bound source = (none, source) ∧
      ByteSource.belowCrash bound source = none := by
  constructor
  · intro transparent bound source
    exact ⟨(transparent.below bound ⟨source⟩).same, transparent.crash bound ⟨source⟩⟩
  · intro none
    exact ⟨fun _ _ => ⟨rfl, rfl⟩, fun bound source => ⟨(none bound source.inner).1, rfl⟩,
      fun bound source => (none bound source.inner).2⟩

/-- A generator over a transparent source, read as a plain source, is transparent, and its own
memory stays like that of the layers inside. -/
theorem generator {memory : τ → List Counter} (transparent : Transparent core memory) :
    Transparent (fun source : Generator τ => core source.source)
      (fun source => source.toCounter :: memory source.source) where
  fill size source :=
    have inside := transparent.fill size source.source
    ⟨inside.same, congrArg (source.toCounter :: ·) inside.stays⟩
  below bound source :=
    have inside := transparent.below bound source.source
    ⟨inside.same, congrArg (source.toCounter :: ·) inside.stays⟩
  crash bound source := transparent.crash bound source.source

/-- Any computation of requests runs on a transparent source as on the core. -/
theorem run (transparent : Transparent core memory) (draws : Draws α) (source : τ) :
    Mirrors core memory source (draws.run source) (draws.run (core source)) := by
  induction draws generalizing source with
  | done outcome => exact ⟨rfl, rfl⟩
  | read size next ih =>
    obtain ⟨same, stays⟩ := transparent.fill size source
    rw [Draws.run, Draws.run, same]
    generalize ByteSource.fill size source = step at stays
    obtain ⟨outcome, after⟩ := step
    cases outcome with
    | value bytes => exact (ih bytes after).before stays
    | error cause => exact ⟨rfl, stays⟩
    | crash text => exact ⟨rfl, stays⟩
    | unfinished => exact ⟨rfl, stays⟩
  | pick bound next ih =>
    obtain ⟨same, stays⟩ := transparent.below bound source
    rw [Draws.run, Draws.run, same, transparent.crash]
    generalize ByteSource.below bound source = step at stays
    obtain ⟨answer, after⟩ := step
    cases ByteSource.belowCrash bound source with
    | none => exact (ih answer after).before stays
    | some text => exact ⟨rfl, stays⟩

/-- A transparent source answers a request as the core. -/
theorem respond (transparent : Transparent core memory) (request : Request) (source : τ) :
    Mirrors core memory source (request.respond source) (request.respond (core source)) := by
  cases request with
  | fill size =>
    have filled := transparent.fill size source
    exact filled.map fun outcome => Response.bytes (outcome.map Vector.toList)
  | below bound =>
    obtain ⟨same, stays⟩ := transparent.below bound source
    refine ⟨?_, stays⟩
    rw [Request.respond, Request.respond, ByteSource.pick, ByteSource.pick, transparent.crash, same]

/-- A fill of a generator over a transparent source is that of one over the core. -/
theorem fillMonotonic (transparent : Transparent core memory) (attempts : Nat) (ms : UInt64)
    (generator : Generator τ) :
    Mirrors (Generator.over core) (fun generator => memory generator.source) generator
      (generator.fill attempts ms) ((generator.over core).fill attempts ms) := by
  obtain ⟨same, stays⟩ :=
    transparent.run (generator.toCounter.next attempts ms) generator.source
  refine ⟨?_, stays⟩
  rw [Generator.fill_eq, Generator.fill_eq]
  dsimp only [Generator.over]
  rw [same]

/-- Any call on a generator over a transparent source is answered as by one over the core. -/
theorem answer (transparent : Transparent core memory) (call : MonotonicCall)
    (generator : Generator τ) :
    Mirrors (Generator.over core) (fun generator => memory generator.source) generator
      (call.answer generator) (call.answer (generator.over core)) := by
  cases reaches : call.fill? with
  | none =>
    obtain ⟨attempts, ms, rfl, late⟩ := call.eq_next_of_late reaches
    rw [MonotonicCall.answer_next_of_late attempts ms late,
      MonotonicCall.answer_next_of_late attempts ms late]
    exact ⟨rfl, rfl⟩
  | some fill =>
    obtain ⟨attempts, ms⟩ := fill
    rw [call.answer_of_fill attempts ms reaches, call.answer_of_fill attempts ms reaches]
    exact (transparent.fillMonotonic attempts ms generator).map call.ofOutcome

end Transparent

/-- One request makes one entry in a record. -/
theorem Request.respond_recorded [ByteSource σ] (request : Request) (source : Recorded σ) :
    (request.respond source).2.requests = request :: source.requests := by
  cases request <;> rfl

/-- A record keeps the requests in the order in which they were made. -/
theorem Request.responses_recorded [ByteSource σ] (requests : List Request) (source : Recorded σ) :
    (answers Request.respond requests source).2.requests = requests.reverse ++ source.requests := by
  induction requests generalizing source with
  | nil => rfl
  | cons request requests ih =>
    rw [answers_cons, ih, Request.respond_recorded, List.reverse_cons, List.append_assoc,
      List.singleton_append]

/-- A layer around a byte source that passes requests on. -/
inductive Layer where
  /-- A reference. -/
  | reference
  /-- A box, also one that shows no more than the interface. -/
  | box
  /-- A monotonic generator that is read as a plain source. -/
  | generator
  deriving DecidableEq, Repr

/-- A source in layers, outermost first. -/
def Layered (σ : Type) : List Layer → Type
  | [] => σ
  | .reference :: layers | .box :: layers => Forwarded (Layered σ layers)
  | .generator :: layers => Generator (Layered σ layers)

namespace Layered

/-- The requests that a source in layers answers are those of its outermost layer. -/
instance byteSource [ByteSource σ] : (layers : List Layer) → ByteSource (Layered σ layers)
  | [] => inferInstanceAs (ByteSource σ)
  | .reference :: layers | .box :: layers =>
    have := byteSource layers
    inferInstanceAs (ByteSource (Forwarded (Layered σ layers)))
  | .generator :: layers =>
    have := byteSource layers
    inferInstanceAs (ByteSource (Generator (Layered σ layers)))

/-- The source inside all layers. -/
def core : (layers : List Layer) → Layered σ layers → σ
  | [], source => source
  | .reference :: layers, source | .box :: layers, source => core layers (Forwarded.inner source)
  | .generator :: layers, source => core layers (Generator.source source)

/-- The memories of the generators among the layers, outermost first. -/
def memories : (layers : List Layer) → Layered σ layers → List Counter
  | [], _ => []
  | .reference :: layers, source | .box :: layers, source =>
    memories layers (Forwarded.inner source)
  | .generator :: layers, source =>
    Generator.toCounter source :: memories layers (Generator.source source)

/-- Layers are transparent at any depth. -/
theorem transparent [ByteSource σ] (layers : List Layer) :
    Transparent (core (σ := σ) layers) (memories layers) := by
  induction layers with
  | nil => exact Transparent.bare
  | cons layer layers ih =>
    cases layer with
    | reference => exact ih.forwarded
    | box => exact ih.forwarded
    | generator => exact ih.generator

/-- A source in layers answers every sequence of requests as its core does, without a change to the
memory of any generator among the layers. Each request, bounded ones included, reaches the core as
it was made and in the same order. So a monotonic generator over the layers answers every sequence
of calls as one with the same memory over the core, by the same requests. -/
theorem forwarding_transparent [ByteSource σ] (layers : List Layer) :
    (∀ (requests : List Request) (source : Layered σ layers),
      let wrapped := answers Request.respond requests source
      let plain := answers Request.respond requests (core layers source)
      wrapped.1 = plain.1 ∧ core layers wrapped.2 = plain.2 ∧
        memories layers wrapped.2 = memories layers source) ∧
    (∀ (requests : List Request) (source : Layered (Recorded σ) layers),
      (core layers (answers Request.respond requests source).2).requests =
        requests.reverse ++ (core layers source).requests) ∧
    (∀ (calls : List MonotonicCall) (generator : Generator (Layered σ layers)),
      let wrapped := answers MonotonicCall.answer calls generator
      let plain := answers MonotonicCall.answer calls
        (Generator.mk generator.toCounter (core layers generator.source))
      wrapped.1 = plain.1 ∧ wrapped.2.toCounter = plain.2.toCounter ∧
        core layers wrapped.2.source = plain.2.source ∧
        memories layers wrapped.2.source = memories layers generator.source) ∧
    (∀ (calls : List MonotonicCall) (generator : Generator (Layered (Recorded σ) layers)),
      let wrapped := answers MonotonicCall.answer calls generator
      let plain := answers MonotonicCall.answer calls
        (Generator.mk generator.toCounter (core layers generator.source))
      (core layers wrapped.2.source).requests = plain.2.source.requests) := by
  refine ⟨fun requests source => ?_, fun requests source => ?_, fun calls generator => ?_,
    fun calls generator => ?_⟩
  · obtain ⟨same, stays⟩ := Mirrors.answers _ _ (transparent layers).respond requests source
    intro wrapped plain
    rw [show plain = _ from same]
    exact ⟨rfl, rfl, stays⟩
  · have same := (Mirrors.answers _ _ (transparent layers).respond requests source).same
    rw [← Request.responses_recorded, same]
  · obtain ⟨same, stays⟩ := Mirrors.answers _ _ (transparent layers).answer calls generator
    intro wrapped plain
    rw [show plain = _ from same]
    exact ⟨rfl, rfl, rfl, stays⟩
  · have same := (Mirrors.answers _ _ (transparent layers).answer calls generator).same
    intro wrapped plain
    rw [show plain = _ from same]
    rfl

end Layered

end SortableId
