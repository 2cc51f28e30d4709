import Descent.Cursor.Slice
import Descent.Proofs.Cursor.Buffer
import Descent.Proofs.Cursor.Text
import Descent.Proofs.Correspondence.Invariant
import Descent.Proofs.Iterations

/-!
# Parsers never move back

Taking an item moves a cursor forward, and nothing else that a parser of a grammar asks
moves it at all.  So whatever a grammar stands for, in whichever scope of its rules, comes
to rest where it started or after it.
-/

namespace Descent

variable {σ τ ι κ ω υ : Type}

/-- Cursors that are moved forward by taking items. -/
def Cursor.Advances (σ : Type) {ι ω : Type} [Cursor σ ι ω] : Prop :=
  ∀ (s : σ) (item : ι) (state : ω), ∀ taken ∈ (Cursor.take? s item state).1,
    Cursor.position s ≤ Cursor.position taken.2

def SymbolCursor.Advances (σ : Type) {ω : Type} [SymbolCursor σ ω] : Prop :=
  ∀ (s : σ) (accept : Char → Bool) (state : ω),
    ∀ taken ∈ (SymbolCursor.takeSymbol? s accept state).1,
      Cursor.position s ≤ Cursor.position taken.2

/-- The scope in which rules are built, with so many references in place and levels left. -/
def Rules.scopeWithin [Cursor σ ι ω] [Item ι] [Leaves κ σ ω] (rules : Rules ι κ)
    (budget levels : Nat) : Scope σ ω :=
  ⟨rules.inPlace (rules.deferred levels) budget, rules.deferred levels⟩

namespace Correspondence

variable [Cursor σ ι ω] [Cursor τ ι υ] [Item ι] [Leaves κ σ ω] [Leaves κ τ υ]
  {c : Correspondence σ τ} {bound : Nat} {rules : Rules ι κ}

theorem scopeWithin_alike (leaves : c.Leafwise κ) (fits : c.Fits bound rules.parts)
    (budget levels floor : Nat) :
    c.Scopes floor bound (rules.scopeWithin budget levels : Scope σ ω)
      (rules.scopeWithin budget levels : Scope τ υ) := by
  have deferred : ∀ floor name, Logged.Alike (c.Parsers floor)
      (rules.deferred levels name : Logged (Parser σ ω Value))
      (rules.deferred levels name : Logged (Parser τ υ Value)) := by
    induction levels with
    -- The levels are equal on both sides, so both are exhausted at once.
    | zero => exact fun _ name => .pure (.refuse name _)
    | succ levels ih =>
        intro floor name
        exact inPlace_alike leaves fits (fun _ => ih (floor + 1)) rules.length name
  exact ⟨inPlace_alike leaves fits (fun _ => deferred (floor + 1)) budget,
    fun _ => deferred (floor + 1)⟩

end Correspondence

def Invariant.startingAt [Cursor σ ι ω] (advances : Cursor.Advances σ) (start : Nat) :
    Invariant σ where
  cursors r := start ≤ Cursor.position r
  shared _ := True
  atEnd _ _ _ := trivial
  peek _ _ _ := trivial
  take {s} there item state _ :=
    ⟨trivial, fun taken success => there.trans (advances s item state taken success)⟩

def Correspondence.startingAt [Cursor σ ι ω] (advances : Cursor.Advances σ) (start : Nat) :
    Correspondence σ σ :=
  (Invariant.startingAt advances start).diagonal .unrestricted fun _ => trivial

theorem Correspondence.startingAt_symbolic [SymbolCursor σ ω] (advances : Cursor.Advances σ)
    (symbols : SymbolCursor.Advances σ) (start : Nat) :
    (startingAt advances start).Symbolic where
  takeSymbol {s t} there accept := by
    obtain ⟨rfl, there⟩ := there
    exact Invariant.corresponds_of_keeps fun state _ =>
      ⟨trivial, fun taken success => there.trans (symbols s accept state taken success)⟩
  marks _ _ := trivial

namespace Parser

variable [Cursor σ ι ω] {advances : Cursor.Advances σ}

theorem Forward.of_self {α : Type} {p : Parser σ ω α}
    (self : ∀ start, (Correspondence.startingAt advances start).Parsers 0 p p) : p.Forward := by
  intro s context
  have there : (Correspondence.startingAt advances (Cursor.position s)).cursors s s :=
    ⟨rfl, Nat.le_refl _⟩
  have runs := (self (Cursor.position s)).parse there
  have ends := runs context.depth (Nat.zero_le _) context.shared context.shared ⟨rfl, trivial⟩
  exact ends.value.remaining.2

theorem build_self [Item ι] [Leaves κ σ ω]
    (leaves : ∀ start, (Correspondence.startingAt advances start).Leafwise κ)
    (rules : Rules ι κ) (grammar : Grammar ι κ) (budget levels start : Nat) :
    (Correspondence.startingAt advances start).Parsers 0
      (grammar.build (rules.scopeWithin budget levels : Scope σ ω) none).value
      (grammar.build (rules.scopeWithin budget levels : Scope σ ω) none).value := by
  have fits : (Correspondence.startingAt advances start).Fits (Grammar.levels rules grammar)
      (grammar.parts ++ rules.parts) := Invariant.fits rules grammar
  have scopes := Correspondence.scopeWithin_alike (leaves start) fits.right budget levels 0
  exact (Correspondence.build_alike (leaves start) scopes grammar fits.left none).value

end Parser

theorem TextCursor.advances : Cursor.Advances TextCursor := by
  intro s item _ taken success
  rw [of_take? success]
  exact s.offset_le_pass _

theorem TextCursor.symbols_advance : SymbolCursor.Advances TextCursor := by
  intro s accept _ taken success
  rw [of_takeSymbol? success]
  exact s.offset_le_pass _

theorem TokenCursor.takeIf?_advances (s : TokenCursor) (condition : String → Bool)
    (buffer : TokenBuffer) :
    ∀ taken ∈ (s.takeIf? condition buffer).1, s.index ≤ taken.2.index := by
  intro taken success
  rw [(of_takeIf? success).1]
  exact Nat.le_succ _

theorem TokenCursor.advances : Cursor.Advances TokenCursor :=
  fun s _ buffer => s.takeIf?_advances _ buffer

theorem TokenCursor.symbols_advance : SymbolCursor.Advances TokenCursor :=
  fun s _ buffer => s.takeIf?_advances _ buffer

theorem SliceCursor.advances : Cursor.Advances (SliceCursor ι) := by
  intro s item _ taken success
  rw [(of_take? success).1]
  exact Nat.le_succ _

end Descent
