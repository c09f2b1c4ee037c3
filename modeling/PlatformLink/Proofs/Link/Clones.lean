import PlatformLink.Link
import PlatformLink.Proofs.Singleton.Alone

/-!
# Clones of a link

Clones of a link share its cells, so that what is asked of any of them is asked of one link. The log
holds, in its order, what each access was given and what each question about the connection was
answered.

`Hands` says once what an access can do to the cells of a link: the client is got from its own cell,
and a cell over it asks the cell of the client first.
-/

namespace PlatformLink

open Endpoint (Call Client)
open PlatformLink.Singleton (Instance LazyCell)

variable {σ : Type}

/-! ## Access -/

/-- What a link hands out. -/
inductive Part where
  | client
  | sub (s : SubClient)
  deriving Repr, DecidableEq

/-- An instance that was handed out; what is built over the client comes with the instance of the
client that it holds. -/
inductive Handed (σ : Type) where
  | client (i : Instance (Client σ))
  | sub (s : SubClient) (i : Instance (Instance (Client σ)))

/-- The instance of the client that is handed out, or held by what is. -/
def Handed.clientInstance : Handed σ → Instance (Client σ)
  | client i => i
  | sub _ i => i.value

/-- What the cell of a part holds. -/
def LinkCells.held? (cells : LinkCells σ) : Part → Option (Handed σ)
  | .client => cells.rest.published.map .client
  | .sub s => (cells.get s).published.map (.sub s)

namespace Link

def hand (l : Link σ) : Part → Outcome (Handed σ) × Link σ
  | .client => (l.restInstance.1.map .client, l.restInstance.2)
  | .sub s => ((l.subInstance s).1.map (.sub s), (l.subInstance s).2)

theorem config_hand (l : Link σ) (p : Part) : (l.hand p).2.config = l.config := by
  cases p <;> rfl

/-- The four accessors hand out a part each. -/
theorem rest_eq_hand (l : Link σ) :
    l.rest = ((l.hand .client).1.map fun h => h.clientInstance.value, (l.hand .client).2) := by
  rw [rest, hand]
  cases l.restInstance.1 <;> rfl

theorem access_eq_hand (l : Link σ) (s : SubClient) :
    l.access s =
      ((l.hand (.sub s)).1.map fun h => h.clientInstance.value, (l.hand (.sub s)).2) := by
  rw [access, hand]
  cases (l.subInstance s).1 <;> rfl

end Link

/-! ## Clones -/

/-- What is asked through the clone `who`; the link itself counts as the first. -/
inductive Use where
  | clone (who : Nat)
  | access (who : Nat) (p : Part)
  | isConnected (who : Nat)

def Use.who : Use → Nat
  | clone who | access who _ | isConnected who => who

inductive LinkEvent (σ : Type) where
  | accessed (who : Nat) (p : Part) (r : Outcome (Handed σ))
  | connected (who : Nat) (answer : Bool)

structure Clones (σ : Type) where
  link : Link σ
  count : Nat
  log : List (LinkEvent σ)

namespace Clones

def new (config : LinkConfig σ) : Clones σ := ⟨.new config, 1, []⟩

def serve (s : Clones σ) : Use → Clones σ
  | .clone _ => { s with count := s.count + 1 }
  | .access who p =>
    ⟨(s.link.hand p).2, s.count, s.log ++ [.accessed who p (s.link.hand p).1]⟩
  | .isConnected who => { s with log := s.log ++ [.connected who s.link.cells.isConnected] }

/-- Only a clone that was made can be asked. -/
def step (s : Clones σ) (u : Use) : Clones σ :=
  if u.who < s.count then s.serve u else s

/-- The clones of a new link after a sequence of uses. -/
def ofUses (config : LinkConfig σ) (uses : List Use) : Clones σ :=
  uses.foldl step (new config)

theorem ofUses_induction {config : LinkConfig σ} {P : Clones σ → Prop} (hnew : P (new config))
    (hserve : ∀ s u, P s → P (s.serve u)) (uses : List Use) : P (ofUses config uses) := by
  unfold ofUses
  generalize new config = s at hnew
  induction uses generalizing s with
  | nil => exact hnew
  | cons u rest ih =>
    refine ih (s.step u) ?_
    unfold step
    split
    · exact hserve s u hnew
    · exact hnew

end Clones

/-! ## What an access can do -/

open PlatformLink.Singleton.LazyCell (Got)

/-- The cells of a link before an access, what the access gives, and the cells after it. -/
inductive Hands (config : LinkConfig σ) (cells : LinkCells σ) :
    Part → Outcome (Handed σ) → LinkCells σ → Prop where
  | client {i : Instance (Client σ)} {rest : LazyCell Unit (Client σ)}
      (hrest : Got config.make cells.rest (.ok i) rest) :
      Hands config cells .client (.ok (.client i)) (cells.setRest rest)
  | clientFailed {e : LinkError} {rest : LazyCell Unit (Client σ)}
      (hrest : Got config.make cells.rest (.error e) rest) :
      Hands config cells .client (.error e) (cells.setRest rest)
  | found {s : SubClient} {i : Instance (Instance (Client σ))}
      (h : (cells.get s).published = some i) :
      Hands config cells (.sub s) (.ok (.sub s i)) cells
  | built {s : SubClient} {i : Instance (Client σ)} {rest : LazyCell Unit (Client σ)}
      (h : (cells.get s).published = none) (hrest : Got config.make cells.rest (.ok i) rest) :
      Hands config cells (.sub s) (.ok (.sub s ⟨(cells.get s).runs + 1, i⟩))
        ((cells.setRest rest).set s ⟨(), some ⟨(cells.get s).runs + 1, i⟩, (cells.get s).holder,
          (cells.get s).runs + 1⟩)
  | failed {s : SubClient} {e : LinkError} {rest : LazyCell Unit (Client σ)}
      (h : (cells.get s).published = none) (hrest : Got config.make cells.rest (.error e) rest) :
      Hands config cells (.sub s) (.error e)
        ((cells.setRest rest).set s ⟨(), none, (cells.get s).holder, (cells.get s).runs + 1⟩)

namespace Link

theorem subInstance_of_published {l : Link σ} {s : SubClient}
    {i : Instance (Instance (Client σ))} (h : (l.cells.get s).published = some i) :
    l.subInstance s = (.ok i, l) := by
  have hget : ((l.cells.get s).withState l.cells.rest).getAlone
      (fun rest => rest.getAlone l.config.make) =
        (.ok i, (l.cells.get s).withState l.cells.rest) := LazyCell.getAlone_of_published _ h
  have hsame : (l.cells.setRest l.cells.rest).set s
      (((l.cells.get s).withState l.cells.rest).withState ()) = l.cells := by
    cases s <;> rfl
  rw [subInstance, hget]
  exact congrArg (fun cells => (Except.ok i, Link.mk l.config cells)) hsame

theorem hands_hand (l : Link σ) (p : Part) :
    Hands l.config l.cells p (l.hand p).1 (l.hand p).2.cells := by
  have hrest := LazyCell.got_getAlone l.config.make l.cells.rest
  cases p with
  | client =>
    rw [hand, restInstance]
    rcases hr : l.cells.rest.getAlone l.config.make with ⟨e | i, rest⟩ <;> rw [hr] at hrest
    · exact .clientFailed hrest
    · exact .client hrest
  | sub s =>
    cases hp : (l.cells.get s).published with
    | some i =>
      rw [hand, subInstance_of_published hp]
      exact .found hp
    | none =>
      rcases hr : l.cells.rest.getAlone l.config.make with ⟨e | i, rest⟩ <;> rw [hr] at hrest
      · have hget : ((l.cells.get s).withState l.cells.rest).getAlone
            (fun rest => rest.getAlone l.config.make) = _ := LazyCell.getAlone_of_failed hp hr
        rw [hand, subInstance, hget]
        exact .failed hp hrest
      · have hget : ((l.cells.get s).withState l.cells.rest).getAlone
            (fun rest => rest.getAlone l.config.make) = _ := LazyCell.getAlone_of_made hp hr
        rw [hand, subInstance, hget]
        exact .built hp hrest

end Link

end PlatformLink
