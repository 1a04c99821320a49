import Webhook.Proofs.Json.Lexing
import Webhook.Proofs.Json.Spelling

/-!
# The texts of a document

The machine that builds a tree takes the tokens of that tree and no others
(`Document.ofTokens?_eq_some_iff`): one token at a time, `Builder.tokens` keeps all that have been
taken. So a text is read as a document exactly when it lays out the tokens of that document
(`Document.parse_eq_some_iff`), which is what `IsTextOf` says.
-/

namespace Webhook.Json

namespace Token

/-- Before the last sequence, each is followed by a comma. -/
theorem commaSeparated_concat (xs : List (List Token)) (x : List Token) :
    commaSeparated (xs ++ [x]) = xs.flatMap (· ++ [.comma]) ++ x := by
  induction xs with
  | nil => rfl
  | cons y xs ih =>
    obtain ⟨z, zs, hcons⟩ : ∃ z zs, xs ++ [x] = z :: zs := by cases xs <;> simp
    rw [List.cons_append, hcons, commaSeparated_cons_cons, ← hcons, ih]
    simp

end Token

namespace Document

/-- The tokens of a member: those of its key and of its value, with a colon between them. -/
def tokensOfMember (m : List Piece × Document) : List Token := .string m.1 :: .colon :: m.2.tokens

/-- The tokens of items, item by item. -/
theorem itemTokens_eq_map (items : List Document) : itemTokens items = items.map tokens := by
  induction items with
  | nil => rfl
  | cons d items ih => rw [itemTokens, List.map_cons, ih]

/-- The tokens of members, member by member. -/
theorem memberTokens_eq_map (members : List (List Piece × Document)) :
    memberTokens members = members.map tokensOfMember := by
  induction members with
  | nil => rfl
  | cons m members ih =>
    rw [memberTokens, List.map_cons, ih]
    rfl

/-- The tokens of an open array, up to its last comma. -/
def tokensOfItems (items : List Document) : List Token :=
  .openArray :: items.flatMap fun d => d.tokens ++ [.comma]

/-- The tokens of an open object, up to its last comma. -/
def tokensOfMembers (members : List (List Piece × Document)) : List Token :=
  .openObject :: members.flatMap fun m => tokensOfMember m ++ [.comma]

/-- The tokens of an array are those of the earlier items, of the last one, and the bracket. -/
theorem tokens_array_concat (items : List Document) (d : Document) :
    (array (items ++ [d])).tokens = tokensOfItems items ++ d.tokens ++ [.closeArray] := by
  rw [tokens, itemTokens_eq_map, List.map_append, List.map_singleton, Token.commaSeparated_concat]
  simp [tokensOfItems, List.flatMap_map]

/-- The tokens of an object are those of the earlier members, of the last one, and the brace. -/
theorem tokens_object_concat (members : List (List Piece × Document))
    (m : List Piece × Document) : (object (members ++ [m])).tokens =
      tokensOfMembers members ++ tokensOfMember m ++ [.closeObject] := by
  rw [tokens, memberTokens_eq_map, List.map_append, List.map_singleton,
    Token.commaSeparated_concat]
  simp [tokensOfMembers, List.flatMap_map]

/-! ## The tokens that have been taken -/

/-- The tokens of an open container. -/
def Frame.tokens : Frame → List Token
  | .array reversed => tokensOfItems reversed.reverse
  | .object reversed key => tokensOfMembers reversed.reverse ++ [.string key, .colon]

/-- The tokens of open containers, innermost first. -/
def Frame.tokensOfStack : List Frame → List Token
  | [] => []
  | frame :: stack => tokensOfStack stack ++ frame.tokens

/-- The tokens that belong to no open container yet. -/
def Goal.tokens : Goal → List Token
  | .value | .valueOrEnd => []
  | .key reversed => tokensOfMembers reversed.reverse
  | .keyOrEnd => [.openObject]
  | .colon reversed pieces => tokensOfMembers reversed.reverse ++ [.string pieces]
  | .after d => d.tokens

namespace Builder

/-- The tokens that have been taken. -/
def tokens (b : Builder) : List Token := Frame.tokensOfStack b.stack ++ b.goal.tokens

/-- Where an array may end at once, it has just been opened. -/
def HasOpened (b : Builder) : Prop :=
  b.goal = .valueOrEnd → ∃ stack, b.stack = .array [] :: stack

variable {b b' : Builder} {t : Token} {stack : List Frame}

/-- Elsewhere nothing is asked. -/
theorem HasOpened.of_ne (h : b.goal ≠ .valueOrEnd) : b.HasOpened := fun heq => absurd heq h

/-- Where a value is expected, the token that is taken comes last in the tokens of the builder. -/
theorem of_stepValue (h : stepValue stack t = some b') :
    b'.HasOpened ∧ b'.tokens = Frame.tokensOfStack stack ++ [t] := by
  cases t with
  | null | bool | number | string | openObject =>
    cases h
    exact ⟨.of_ne Goal.noConfusion, rfl⟩
  | openArray =>
    cases h
    refine ⟨fun _ => ⟨stack, rfl⟩, ?_⟩
    simp [tokens, Frame.tokensOfStack, Frame.tokens, tokensOfItems, Goal.tokens]
  | closeObject | closeArray | colon | comma => cases h

/-- One token more has been taken. -/
theorem of_step (hopened : b.HasOpened) (h : b.step t = some b') :
    b'.HasOpened ∧ b'.tokens = b.tokens ++ [t] := by
  obtain ⟨goal, stack⟩ := b
  cases goal with
  | value =>
    have hstep : stepValue stack t = some b' := by simpa only [step] using h
    simpa [tokens, Goal.tokens] using of_stepValue hstep
  | valueOrEnd =>
    -- the array on top of the stack holds no item yet, so that its end makes the empty array
    obtain ⟨stack, rfl⟩ := hopened rfl
    by_cases ht : t = .closeArray
    · subst ht
      cases h
      refine ⟨.of_ne Goal.noConfusion, ?_⟩
      simp [tokens, Frame.tokensOfStack, Frame.tokens, tokensOfItems, Goal.tokens,
        Document.tokens, itemTokens, Token.commaSeparated]
    · have hstep : stepValue (.array [] :: stack) t = some b' := by simpa [step, ht] using h
      simpa [tokens, Goal.tokens] using of_stepValue hstep
  | keyOrEnd =>
    cases t <;> cases h
    · -- the object ends at once
      refine ⟨.of_ne Goal.noConfusion, ?_⟩
      simp [tokens, Goal.tokens, Document.tokens, memberTokens, Token.commaSeparated]
    · refine ⟨.of_ne Goal.noConfusion, ?_⟩
      simp [tokens, Goal.tokens, tokensOfMembers]
  | key reversed =>
    cases t <;> cases h
    refine ⟨.of_ne Goal.noConfusion, ?_⟩
    simp [tokens, Goal.tokens]
  | colon reversed key =>
    cases t <;> cases h
    -- the key moves onto the stack
    refine ⟨.of_ne Goal.noConfusion, ?_⟩
    simp [tokens, Goal.tokens, Frame.tokensOfStack, Frame.tokens]
  | after d =>
    cases stack with
    | nil => cases t <;> cases h
    | cons frame stack =>
      cases frame with
      | array reversed =>
        cases t <;> cases h
        -- the end of the array, and a comma
        · refine ⟨.of_ne Goal.noConfusion, ?_⟩
          simp only [tokens, Goal.tokens, Frame.tokensOfStack, Frame.tokens, List.reverse_cons,
            tokens_array_concat, List.append_assoc]
        · refine ⟨.of_ne Goal.noConfusion, ?_⟩
          simp [tokens, Goal.tokens, Frame.tokensOfStack, Frame.tokens, tokensOfItems]
      | object reversed key =>
        cases t <;> cases h
        -- the end of the object, and a comma
        · refine ⟨.of_ne Goal.noConfusion, ?_⟩
          simp only [tokens, Goal.tokens, Frame.tokensOfStack, Frame.tokens, List.reverse_cons,
            tokens_object_concat, tokensOfMember, List.append_assoc, List.cons_append,
            List.nil_append]
        · refine ⟨.of_ne Goal.noConfusion, ?_⟩
          simp [tokens, Goal.tokens, Frame.tokensOfStack, Frame.tokens, tokensOfMembers,
            tokensOfMember]

/-- A whole sequence of tokens has been taken. -/
theorem tokens_of_foldlM {ts : List Token} (h : ts.foldlM step start = some b) :
    b.HasOpened ∧ b.tokens = ts := by
  -- by the tokens from the right, the last of which is the last step
  induction ts using List.reverseRecOn generalizing b with
  | nil =>
    cases h
    exact ⟨.of_ne Goal.noConfusion, rfl⟩
  | append_singleton ts t ih =>
    rw [List.foldlM_append, Option.bind_eq_bind, Option.bind_eq_some_iff] at h
    obtain ⟨m, hm, hstep⟩ := h
    obtain ⟨hopened, htokens⟩ := ih hm
    have hstep' : m.step t = some b := by simpa using hstep
    rw [← htokens]
    exact of_step hopened hstep'

end Builder

/-- Tokens build a document exactly when they are its tokens. -/
theorem ofTokens?_eq_some_iff {ts : List Token} {d : Document} :
    ofTokens? ts = some d ↔ ts = d.tokens := by
  constructor
  · intro h
    obtain ⟨b, hb, hfinish⟩ := Option.bind_eq_some_iff.1 h
    obtain ⟨-, htokens⟩ := Builder.tokens_of_foldlM hb
    obtain ⟨goal, stack⟩ := b
    -- no container is open at the end
    cases goal <;> cases stack <;> cases hfinish
    rw [← htokens]
    rfl
  · rintro rfl
    exact ofTokens?_tokens d

/-! ## Texts -/

/-- Whether a text is one of a document: it lays out the tokens of the document. -/
def IsTextOf (t : String) (d : Document) : Prop := Layout t.toList d.tokens

/-- A text is read as a document exactly when it is one of its texts. -/
theorem parse_eq_some_iff {t : String} {d : Document} : parse t = some d ↔ IsTextOf t d := by
  rw [parse, Option.bind_eq_some_iff, IsTextOf, ← Token.scan_eq_some_iff]
  constructor
  · rintro ⟨ts, hts, hd⟩
    rw [hts, ofTokens?_eq_some_iff.1 hd]
  · intro h
    exact ⟨d.tokens, h, ofTokens?_tokens d⟩

end Document

end Webhook.Json
