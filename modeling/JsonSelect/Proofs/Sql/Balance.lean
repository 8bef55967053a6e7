import JsonSelect.Proofs.Sql.Token
import Mathlib.Data.List.Chain

/-! Parentheses and connectives among the tokens of a condition. -/
namespace JsonSelect.Sql

variable {found more before : List Token}

/-- How many parentheses the tokens leave open. -/
def depth : List Token → Int
  | [] => 0
  | .opening :: rest => depth rest + 1
  | .closing :: rest => depth rest - 1
  | _ :: rest => depth rest

/-- Every parenthesis that the tokens close was opened by them, and none is left open. -/
def Balanced (found : List Token) : Prop :=
  depth found = 0 ∧ ∀ before, before <+: found → 0 ≤ depth before

def Token.isConnective : Token → Bool
  | word letters => letters = "AND" || letters = "OR"
  | _ => false

/-- Neither a closing parenthesis nor a connective follows an opening one or a connective. -/
def MayFollow (first second : Token) : Prop :=
  first = .opening ∨ first.isConnective = true → second ≠ .closing ∧ second.isConnective = false

/-- Tokens that can stand between two connectives. -/
structure Operand (found : List Token) : Prop where
  nonempty : found ≠ []
  balanced : Balanced found
  begins : ∀ token ∈ found.head?, token ≠ .closing ∧ token.isConnective = false
  ends : ∀ token ∈ found.getLast?, token ≠ .opening ∧ token.isConnective = false
  chain : found.IsChain MayFollow

@[simp] theorem depth_nil : depth [] = 0 := rfl

@[simp] theorem depth_opening : depth (.opening :: found) = depth found + 1 := rfl

@[simp] theorem depth_closing : depth (.closing :: found) = depth found - 1 := rfl

theorem depth_cons {token : Token} (ho : token ≠ .opening) (hc : token ≠ .closing) :
    depth (token :: found) = depth found := by
  cases token with
  | opening => exact absurd rfl ho
  | closing => exact absurd rfl hc
  | _ => rfl

@[simp] theorem depth_append : depth (found ++ more) = depth found + depth more := by
  induction found with
  | nil => simp
  | cons token found ih =>
    cases token <;> simp only [List.cons_append, depth, ih] <;> omega

namespace Balanced

theorem nil : Balanced [] := by
  refine ⟨rfl, fun before hb => ?_⟩
  rw [List.prefix_nil.mp hb]
  exact Int.le_refl 0

theorem append (h : Balanced found) (hm : Balanced more) : Balanced (found ++ more) := by
  refine ⟨by simp [h.1, hm.1], fun before hb => ?_⟩
  obtain ⟨after, he⟩ := hb
  rcases List.append_eq_append_iff.mp he with ⟨rest, hr, -⟩ | ⟨rest, rfl, hr⟩
  · exact h.2 before ⟨rest, hr.symm⟩
  · have := hm.2 rest ⟨after, hr.symm⟩
    rw [depth_append, h.1]
    omega

theorem cons {token : Token} (ho : token ≠ .opening) (hc : token ≠ .closing)
    (h : Balanced found) : Balanced (token :: found) := by
  refine ⟨by rw [depth_cons ho hc, h.1], fun before hb => ?_⟩
  rcases List.prefix_cons_iff.mp hb with rfl | ⟨rest, rfl, hr⟩
  · exact Int.le_refl 0
  · rw [depth_cons ho hc]
    exact h.2 rest hr

/-- The first parenthesis is open until the last one. -/
theorem depth_pos (h : Balanced found) (hb : before <+: .opening :: (found ++ [.closing]))
    (hne : before ≠ []) (hl : before ≠ .opening :: (found ++ [.closing])) : 0 < depth before := by
  rcases List.prefix_cons_iff.mp hb with rfl | ⟨rest, rfl, hr⟩
  · exact absurd rfl hne
  · have hp : rest <+: found := by
      rcases List.prefix_concat_iff.mp hr with rfl | hp
      · exact absurd rfl hl
      · exact hp
    have := h.2 rest hp
    rw [depth_opening]
    omega

theorem parens (h : Balanced found) : Balanced (.opening :: (found ++ [.closing])) := by
  have hd : depth (.opening :: (found ++ [.closing])) = 0 := by simp [h.1]
  refine ⟨hd, fun before hb => ?_⟩
  by_cases hl : before = .opening :: (found ++ [.closing])
  · have hz : depth before = 0 := by rw [hl, hd]
    omega
  · by_cases hne : before = []
    · simp [hne]
    · exact Int.le_of_lt (h.depth_pos hb hne hl)

end Balanced

/-- Neither a parenthesis nor a connective. -/
def Token.IsPlain (token : Token) : Prop :=
  token ≠ opening ∧ token ≠ closing ∧ token.isConnective = false

namespace Operand

theorem of_plain (hne : found ≠ []) (h : ∀ token ∈ found, token.IsPlain) : Operand found := by
  refine ⟨hne, ?_, fun token ht => ?_, fun token ht => ?_, ?_⟩
  · clear hne
    induction found with
    | nil => exact .nil
    | cons token found ih =>
      have ht := h token (by simp)
      exact .cons ht.1 ht.2.1 (ih fun other ho => h other (by simp [ho]))
  · exact (h token (List.mem_of_mem_head? ht)).2
  · have hp := h token (List.mem_of_getLast? ht)
    exact ⟨hp.1, hp.2.2⟩
  · clear hne
    induction found with
    | nil => exact .nil
    | cons token found ih =>
      refine List.isChain_cons.mpr ⟨fun next hn _ => ?_, ih fun other ho => h other (by simp [ho])⟩
      exact (h next (List.mem_cons_of_mem _ (List.mem_of_mem_head? hn))).2

/-- Anything may follow the last token of an operand. -/
theorem mayFollow (h : Operand found) {last : Token} (hl : last ∈ found.getLast?) (next : Token) :
    MayFollow last next := by
  intro hc
  have he := h.ends last hl
  rcases hc with hc | hc
  · exact absurd hc he.1
  · simp [he.2] at hc

theorem append (h : Operand found) (hm : Operand more) : Operand (found ++ more) := by
  refine ⟨by simp [h.nonempty], h.balanced.append hm.balanced, fun token ht => ?_,
    fun token ht => ?_, h.chain.append hm.chain fun last hl next _ => h.mayFollow hl next⟩
  · rw [List.head?_append_of_ne_nil _ h.nonempty] at ht
    exact h.begins token ht
  · rw [List.getLast?_append_of_ne_nil _ hm.nonempty] at ht
    exact hm.ends token ht

theorem parens (h : Operand found) : Operand (.opening :: (found ++ [.closing])) := by
  refine ⟨by simp, h.balanced.parens, by simp [Token.isConnective], fun token ht => ?_,
    List.isChain_cons.mpr ⟨fun next hn _ => ?_,
      h.chain.append (.singleton _) fun last hl next _ => h.mayFollow hl next⟩⟩
  · rw [List.getLast?_cons_of_ne_nil (by simp), List.getLast?_concat] at ht
    cases ht
    exact ⟨by simp, rfl⟩
  · rw [List.head?_append_of_ne_nil _ h.nonempty] at hn
    exact h.begins next hn

/-- A connective stands between two operands. -/
theorem join (connective : Connective) (h : Operand found) (hm : Operand more) :
    Operand (found ++ .word connective.keyword :: more) := by
  have hk : Token.word connective.keyword ≠ .opening ∧
      Token.word connective.keyword ≠ .closing := by simp
  refine ⟨by simp [h.nonempty], h.balanced.append (hm.balanced.cons hk.1 hk.2),
    fun token ht => ?_, fun token ht => ?_,
    h.chain.append (List.isChain_cons.mpr ⟨fun next hn _ => hm.begins next hn, hm.chain⟩)
      fun last hl next _ => h.mayFollow hl next⟩
  · rw [List.head?_append_of_ne_nil _ h.nonempty] at ht
    exact h.begins token ht
  · rw [List.getLast?_append_of_ne_nil _ (by simp), List.getLast?_cons_of_ne_nil hm.nonempty] at ht
    exact hm.ends token ht

end Operand
end JsonSelect.Sql
