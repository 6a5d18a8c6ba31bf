import IssueTracker.Json.Parser
import IssueTracker.Json.Printer
import IssueTracker.Json.Scanning

/-! The printer and the parser are inverse: the tokens of a value are parsed as
that value (`ofTokens?_tokens`), numbers among them stand only where a value may
end (`separated_tokens`), and so the text of a value is read as it
(`ofChars?_chars`). -/

namespace IssueTracker
namespace Json

namespace State

theorem run_cons {s s' : State} {t : Token} (r : List Token) (h : s.step t = some s') :
    s.run (t :: r) = s'.run r := by
  rw [run, h]

end State

/-- The first token of a value is taken alike by an array that was just opened. -/
theorem run_item (v : Json) (outer : List Frame) (r : List Token) :
    (State.item outer).run (v.tokens ++ r) =
      (State.value (.array [] :: outer)).run (v.tokens ++ r) := by
  cases v <;> rfl

mutual

theorem run_tokens (v : Json) (outer : List Frame) (r : List Token) :
    (State.value outer).run (v.tokens ++ r) = (State.after v outer).run r := by
  match v with
  | .null => rfl
  | .bool _ => rfl
  | .num _ => rfl
  | .str _ => rfl
  | .arr items => exact run_itemTokens items outer r
  | .obj members => exact run_memberTokens members outer r

theorem run_itemTokens (items : List Json) (outer : List Frame) (r : List Token) :
    (State.item outer).run (itemTokens items ++ r) = (State.after (.arr items) outer).run r := by
  match items with
  | [] => rfl
  | v :: vs =>
    rw [itemTokens, List.append_assoc, run_item, run_tokens v, run_moreItemTokens vs v [] outer r]
    rfl

theorem run_moreItemTokens (items : List Json) (v : Json) (before : List Json)
    (outer : List Frame) (r : List Token) :
    (State.after v (.array before :: outer)).run (moreItemTokens items ++ r) =
      (State.after (.arr ((v :: before).reverse ++ items)) outer).run r := by
  match items with
  | [] => rw [List.append_nil]; rfl
  | w :: ws =>
    rw [moreItemTokens, List.cons_append, List.append_assoc]
    have := run_tokens w (.array (v :: before) :: outer) (moreItemTokens ws ++ r)
    rw [State.run_cons _ rfl, this, run_moreItemTokens ws w (v :: before) outer r]
    simp

theorem run_memberTokens (members : List (Quoted × Json)) (outer : List Frame) (r : List Token) :
    (State.member outer).run (memberTokens members ++ r) =
      (State.after (.obj members) outer).run r := by
  match members with
  | [] => rfl
  | (k, v) :: ms =>
    rw [memberTokens]
    simp only [List.cons_append, List.append_assoc]
    rw [State.run_cons _ rfl, State.run_cons _ rfl, run_tokens v,
      run_moreMemberTokens ms k v [] outer r]
    rfl

theorem run_moreMemberTokens (members : List (Quoted × Json)) (k : Quoted) (v : Json)
    (before : List (Quoted × Json)) (outer : List Frame) (r : List Token) :
    (State.after v (.object before k :: outer)).run (moreMemberTokens members ++ r) =
      (State.after (.obj (((k, v) :: before).reverse ++ members)) outer).run r := by
  match members with
  | [] => rw [List.append_nil]; rfl
  | (l, w) :: ms =>
    rw [moreMemberTokens]
    simp only [List.cons_append, List.append_assoc]
    rw [State.run_cons _ rfl, State.run_cons _ rfl, State.run_cons _ rfl, run_tokens w,
      run_moreMemberTokens ms l w ((k, v) :: before) outer r]
    simp

end

/-- The tokens of a value are parsed as that value. -/
theorem ofTokens?_tokens (v : Json) : ofTokens? v.tokens = some v := by
  have := run_tokens v [] []
  rw [List.append_nil] at this
  rw [ofTokens?, this]
  rfl

mutual

theorem separated_tokens (v : Json) {r : List Token} (hr : ∀ t ∈ r.head?, t.isEnd)
    (hs : Separated r) : Separated (v.tokens ++ r) := by
  match v with
  | .null => exact hs
  | .bool _ => exact hs
  | .num _ => exact ⟨hr, hs⟩
  | .str _ => exact hs
  | .arr [] => exact hs
  | .arr (v :: vs) => 
    change Separated ((v.tokens ++ moreItemTokens vs) ++ r)
    rw [List.append_assoc]
    exact separated_tokens v (head_moreItemTokens vs r) (separated_moreItemTokens vs hs)
  | .obj [] => exact hs
  | .obj ((k, v) :: ms) =>
    change Separated ((v.tokens ++ moreMemberTokens ms) ++ r)
    rw [List.append_assoc]
    exact separated_tokens v (head_moreMemberTokens ms r) (separated_moreMemberTokens ms hs)

theorem head_moreItemTokens (items : List Json) (r : List Token) :
    ∀ t ∈ (moreItemTokens items ++ r).head?, t.isEnd := by
  cases items <;> simp [moreItemTokens, Token.isEnd]

theorem separated_moreItemTokens (items : List Json) {r : List Token} (hs : Separated r) :
    Separated (moreItemTokens items ++ r) := by
  match items with
  | [] => exact hs
  | v :: vs =>
    rw [moreItemTokens, List.cons_append, List.append_assoc]
    exact separated_tokens v (head_moreItemTokens vs r) (separated_moreItemTokens vs hs)

theorem head_moreMemberTokens (members : List (Quoted × Json)) (r : List Token) :
    ∀ t ∈ (moreMemberTokens members ++ r).head?, t.isEnd := by
  cases members <;> simp [moreMemberTokens, Token.isEnd]

theorem separated_moreMemberTokens (members : List (Quoted × Json)) {r : List Token}
    (hs : Separated r) : Separated (moreMemberTokens members ++ r) := by
  match members with
  | [] => exact hs
  | (k, v) :: ms =>
    rw [moreMemberTokens]
    simp only [List.cons_append, List.append_assoc]
    exact separated_tokens v (head_moreMemberTokens ms r) (separated_moreMemberTokens ms hs)

end

/-- Every string and number in the value is written as it is read. -/
def Written (v : Json) : Prop :=
  ∀ t ∈ v.tokens, t.Written

/-- A value that was written is read back. -/
theorem ofChars?_chars {v : Json} (h : v.Written) : ofChars? v.chars = some v := by
  have hs : Separated v.tokens := by
    simpa using separated_tokens v (r := []) (by simp) trivial
  rw [ofChars?, ofSymbols?, scan, chars, scanFrom_tokens h hs]
  exact ofTokens?_tokens v

theorem ofString?_text {v : Json} (h : v.Written) : ofString? v.text = some v := by
  rw [ofString?, text, String.toList_ofList, ofChars?_chars h]

end Json
end IssueTracker
