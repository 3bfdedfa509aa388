import SchemaBinding.Proofs.Agreement
import SchemaBinding.Xml.DocumentType.Basic

/-!
# Tokens with and without the extra letters

The declarations of a document type are divided into the same tokens with either
alphabet, and what each declaration leaves behind are the last of its tokens.
-/

namespace SchemaBinding.Xml

open Alphabet

variable {letters : Prop} {text : List Char}

namespace DocumentType

namespace Token

def IsClear (letters : Prop) : Token → Prop
  | .literal text => Clear letters text
  | _ => True

def SameToken (letters : Prop) (found other : Token × List Char) : Prop :=
  found = other ∧ found.1.IsClear letters ∧ Clear letters found.2

theorem wordKind_eq {spelled : List Char} (known : ∀ c ∈ spelled, c ∉ extraLetters) :
    wordKind .extended spelled = wordKind .standard spelled := by
  cases spelled with
  | nil => rfl
  | cons c rest =>
      have same : extended.isStart c = standard.isStart c := by
        rw [Bool.eq_iff_iff, isStart_extended, or_iff_left (known c List.mem_cons_self)]
      unfold wordKind
      dsimp only
      rw [same]

theorem scanWord?_eq_some {alphabet : Alphabet} {token : Token} {rest : List Char}
    (read : scanWord? alphabet text = some (token, rest)) :
    (∃ kind spelled, token = .word kind spelled) ∧ rest <:+ text := by
  unfold scanWord? at read
  dsimp only at read
  split at read
  · cases read
  · split at read
    · cases read
    · next c after stop =>
        have within : c :: after <:+ text := stop ▸ List.drop_suffix _ text
        split at read
        · split at read
          · cases read
          · cases read
            exact ⟨⟨_, _, rfl⟩, (List.suffix_cons c _).trans within⟩
        · split at read
          · cases read
            exact ⟨⟨_, _, rfl⟩, List.drop_suffix _ text⟩
          · cases read

theorem scanWord?_agree (clear : Clear letters text) :
    Agree letters (SameToken letters) (scanWord? .standard text) (scanWord? .extended text) := by
  have widens : ∀ c, (extended.isPart c || c == ':') = true ↔
      (standard.isPart c || c == ':') = true ∨ c ∈ extraLetters := by
    intro c
    simp only [Bool.or_eq_true, isPart_extended]
    exact or_right_comm
  rcases takeWhile_eq_or_atLetter widens text with same | stops
  · have known : ∀ c ∈ text.takeWhile (fun c => standard.isPart c || c == ':'),
        c ∉ extraLetters := by
      intro c member extra
      have part := List.all_eq_true.mp List.all_takeWhile c member
      rw [not_isPart_extra extra, Bool.false_or, beq_iff_eq] at part
      subst part
      revert extra
      decide
    have equal : scanWord? .extended text = scanWord? .standard text := by
      unfold scanWord?
      dsimp only
      rw [same, wordKind_eq known]
    rw [equal]
    refine .of_related fun found read => ?_
    obtain ⟨⟨kind, spelled, word⟩, within⟩ := scanWord?_eq_some read
    exact ⟨rfl, word ▸ trivial, clear.of_suffix within⟩
  · have nothing : scanWord? .standard text = none := by
      obtain ⟨others, stop⟩ := stops.eq_cons
      unfold scanWord?
      dsimp only
      split
      · rfl
      · rcases stop with stop | stop | stop <;> rw [stop] <;> rfl
    rw [nothing]
    exact .lost ((clear.of_suffix (List.drop_suffix _ text)).given stops) _

theorem scanPercent?_eq_some {alphabet : Alphabet} {token : Token} {rest : List Char}
    (read : scanPercent? alphabet text = some (token, rest)) :
    (∃ name, token = .parameter name) ∨ token = .percent := by
  unfold scanPercent? at read
  split at read
  · cases read
    exact .inl ⟨_, rfl⟩
  · cases read
  · split at read
    · cases read
      exact .inr rfl
    · cases read

theorem scanPercent?_agree (clear : Clear letters text) :
    Agree letters (SameToken letters) (scanPercent? .standard text)
      (scanPercent? .extended text) := by
  unfold scanPercent?
  rcases scanPlain?_eq_or text with same | reached | ⟨name, rest, found, stops⟩
  · rw [same]
    refine .of_related fun found read => ?_
    split at read
    · next name rest plain =>
        cases read
        exact ⟨rfl, trivial, (clear.of_suffix (scanPlain?_rest plain)).tail⟩
    · cases read
    · split at read
      · cases read
        exact ⟨rfl, trivial, clear⟩
      · cases read
  · have given := clear.given reached
    rw [scanPlain?_atLetter reached]
    obtain ⟨others, rfl | rfl | rfl⟩ := reached.eq_cons <;> exact .lost given _
  · have given := (clear.of_suffix (scanPlain?_rest found)).given stops
    rw [found]
    obtain ⟨others, rfl | rfl | rfl⟩ := stops.eq_cons <;> exact .lost given _

theorem scanKeyword?_eq_some {token : Token} {rest : List Char}
    (read : scanKeyword? text = some (token, rest)) :
    (∃ keyword, token = .openDeclaration keyword) ∧ rest <:+ text := by
  unfold scanKeyword? at read
  dsimp only at read
  split at read
  · cases read
  · split at read
    · split at read
      · cases read
      · cases read
        exact ⟨⟨_, rfl⟩, List.drop_suffix _ text⟩
    · split at read
      · cases read
        exact ⟨⟨_, rfl⟩, List.drop_suffix _ text⟩
      · cases read

theorem scan?_agree (clear : Clear letters text) :
    Agree letters (SameToken letters) (scan? .standard text) (scan? .extended text) := by
  unfold scan?
  split
  · next rest =>
      refine .of_related fun found read => ?_
      obtain ⟨remaining, skip, rfl⟩ := Option.map_eq_some_iff.mp read
      exact ⟨rfl, trivial, clear.tail.tail.tail.tail.of_suffix (skipComment?_rest skip)⟩
  · next rest _ =>
      refine .of_related fun found read => ?_
      obtain ⟨⟨keyword, same⟩, within⟩ := scanKeyword?_eq_some read
      exact ⟨rfl, same ▸ trivial, clear.tail.tail.of_suffix within⟩
  · next rest =>
      exact (skipInstruction?_agree clear.tail.tail).map fun _ _ ⟨same, clear⟩ =>
        ⟨same ▸ rfl, trivial, clear⟩
  · exact .both ⟨rfl, trivial, clear.tail⟩
  · exact .both ⟨rfl, trivial, clear.tail⟩
  · next rest =>
      refine .of_related fun found read => ?_
      split at read
      · cases read
      · split at read
        · cases read
          exact ⟨rfl, trivial, clear.tail.tail⟩
        · split at read
          · cases read
            exact ⟨rfl, trivial, clear.tail⟩
          · cases read
  · exact .both ⟨rfl, trivial, clear.tail⟩
  · exact .both ⟨rfl, trivial, clear.tail⟩
  · exact .both ⟨rfl, trivial, clear.tail⟩
  · exact .both ⟨rfl, trivial, clear.tail⟩
  · exact scanPercent?_agree clear.tail
  · next rest =>
      refine (scanPlain?_agree clear.tail).bind (fun _ _ => ⟨rfl, rfl, rfl⟩)
        fun name rest clear => ?_
      refine .of_related fun found read => ?_
      dsimp only at read
      split at read
      · cases read
        exact ⟨rfl, trivial, clear⟩
      · cases read
  · split
    · refine .of_related fun found read => ?_
      obtain ⟨⟨body, remaining⟩, divided, read⟩ := Option.bind_eq_some_iff.mp read
      dsimp only at read
      split at read
      · cases read
        exact ⟨rfl, clear.tail.mono (splitAt?_before divided),
          clear.tail.of_suffix (splitAt?_rest divided)⟩
      · cases read
    · exact scanWord?_agree clear
  · exact .neither

/-- A keyword is read without looking at the characters of names. -/
theorem scan?_of_openDeclaration {alphabet : Alphabet} {keyword : String} {rest : List Char}
    (read : scan? alphabet text = some (.openDeclaration keyword, rest)) (other : Alphabet) :
    scan? other text = some (.openDeclaration keyword, rest) := by
  unfold scan? at read ⊢
  split at read
  · exact read
  · exact read
  · obtain ⟨after, -, same⟩ := Option.map_eq_some_iff.mp read
    cases same
  · exact read
  · exact read
  · exact read
  · exact read
  · exact read
  · exact read
  · exact read
  · obtain ⟨name, same⟩ | same := scanPercent?_eq_some read <;> cases same
  · obtain ⟨⟨name, after⟩, -, read⟩ := Option.bind_eq_some_iff.mp read
    dsimp only at read
    split at read <;> cases read
  · split at read
    · obtain ⟨⟨body, after⟩, -, read⟩ := Option.bind_eq_some_iff.mp read
      dsimp only at read
      split at read <;> cases read
    · obtain ⟨⟨kind, spelled, same⟩, -⟩ := scanWord?_eq_some read
      cases same
  · cases read

def SameTokens (letters : Prop) (found other : List Token × List Char) : Prop :=
  found = other ∧ (∀ token ∈ found.1, token.IsClear letters) ∧ Clear letters found.2

theorem scanAllWith_agree (fuel : Nat) (inside : Bool) (clear : Clear letters text) :
    Agree letters (SameTokens letters) (scanAllWith .standard fuel inside text)
      (scanAllWith .extended fuel inside text) := by
  induction fuel generalizing inside text with
  | zero => exact .neither
  | succ fuel ih =>
      unfold scanAllWith
      refine (scan?_agree (clear.of_skipSpace rfl)).bind fun found _ same => ?_
      obtain ⟨token, rest⟩ := found
      obtain ⟨rfl, clearToken, clear⟩ := same
      dsimp only
      split
      · exact .both ⟨rfl, List.forall_mem_singleton.mpr clearToken, clear⟩
      · refine (ih _ clear).bind fun found _ same => ?_
        obtain ⟨rfl, clearTokens, clear⟩ := same
        exact .both ⟨rfl, List.forall_mem_cons.mpr ⟨clearToken, clearTokens⟩, clear⟩

theorem scanAll?_agree (clear : Clear letters text) :
    Agree letters (SameTokens letters) (scanAll? .standard text) (scanAll? .extended text) :=
  scanAllWith_agree text.length false clear

end Token

/-! ### Declarations, whose form does not depend on the alphabet -/

section Form

variable {tokens rest : List Token}

theorem externalId?_rest (read : externalId? tokens = some rest) : rest <:+ tokens := by
  unfold externalId? at read
  split at read
  · cases read
    exact ⟨[_, _], rfl⟩
  · split at read
    · cases read
      exact ⟨[_, _, _], rfl⟩
    · cases read
  · cases read

theorem enumeration?_rest {namesOnly : Bool} (read : enumeration? namesOnly tokens = some rest) :
    rest <:+ tokens := by
  fun_induction enumeration? namesOnly tokens with
  | case1 => cases read
  | case2 kind text tokens _ ih => exact (ih read).trans ⟨[_, _], rfl⟩
  | case3 => cases read
  | case4 =>
      cases read
      exact ⟨[_, _], rfl⟩
  | case5 => cases read

theorem attributeType?_rest {tokenized : Bool}
    (read : attributeType? tokens = some (tokenized, rest)) : rest <:+ tokens := by
  unfold attributeType? at read
  split at read
  · obtain ⟨others, members, same⟩ := Option.map_eq_some_iff.mp read
    cases same
    exact (enumeration?_rest members).trans (List.suffix_cons _ _)
  · obtain ⟨others, members, same⟩ := Option.map_eq_some_iff.mp read
    cases same
    exact (enumeration?_rest members).trans ⟨[_, _], rfl⟩
  · cases read
    exact List.suffix_cons _ _
  · split at read
    · cases read
      exact List.suffix_cons _ _
    · cases read
  · cases read

theorem attributeDefault?_rest {value : Option (List Char)}
    (read : attributeDefault? tokens = some (value, rest)) :
    rest <:+ tokens ∧ ∀ text ∈ value, .literal text ∈ tokens := by
  unfold attributeDefault? at read
  split at read
  · cases read
    exact ⟨List.suffix_cons _ _, fun _ given => absurd given (Option.not_mem_none _)⟩
  · cases read
    exact ⟨List.suffix_cons _ _, fun _ given => absurd given (Option.not_mem_none _)⟩
  · cases read
    refine ⟨⟨[_, _], rfl⟩, fun _ given => ?_⟩
    cases given
    exact List.mem_cons_of_mem _ List.mem_cons_self
  · cases read
    refine ⟨List.suffix_cons _ _, fun _ given => ?_⟩
    cases given
    exact List.mem_cons_self
  · cases read

theorem contentModel?_rest {groups : List Separator} {expected : Bool}
    (read : contentModel? groups expected tokens = some rest) : rest <:+ tokens := by
  fun_induction contentModel? groups expected tokens with
  | case1 groups tokens ih => exact (ih read).trans (List.suffix_cons _ _)
  | case2 => cases read
  | case3 group groups kind text tokens _ ih => exact (ih read).trans (List.suffix_cons _ _)
  | case4 => cases read
  | case5 group groups tokens _ ih => exact (ih read).trans (List.suffix_cons _ _)
  | case6 => cases read
  | case7 group groups tokens _ ih => exact (ih read).trans (List.suffix_cons _ _)
  | case8 =>
      cases read
      exact List.suffix_cons _ _
  | case9 group groups mark tokens _ ih => exact (ih read).trans (List.suffix_cons _ _)
  | case10 => cases read

theorem mixedModel?_rest {named : Bool} (read : mixedModel? named tokens = some rest) :
    rest <:+ tokens := by
  fun_induction mixedModel? named tokens with
  | case1 =>
      cases read
      exact List.suffix_cons _ _
  | case2 =>
      cases read
      exact List.suffix_cons _ _
  | case3 named token tokens ih =>
      obtain ⟨name, -, later⟩ := Option.bind_eq_some_iff.mp read
      exact (ih later).trans ⟨[_, _], rfl⟩
  | case4 => cases read

theorem closeDeclaration_rest {found : Option (List Token)}
    (read : (found >>= fun
      | .closeDeclaration :: rest => pure rest
      | _ => none) = some rest) : ∃ others, found = some others ∧ rest <:+ others := by
  obtain ⟨others, same, read⟩ := Option.bind_eq_some_iff.mp read
  split at read
  · cases read
    exact ⟨_, same, List.suffix_cons _ _⟩
  · cases read

theorem elementDeclaration?_rest (read : elementDeclaration? tokens = some rest) :
    rest <:+ tokens := by
  cases tokens with
  | nil => cases read
  | cons name content =>
      obtain ⟨_, -, read⟩ := Option.bind_eq_some_iff.mp read
      suffices within : rest <:+ content from within.trans (List.suffix_cons name content)
      dsimp only at read
      split at read
      · obtain ⟨others, same, within⟩ := closeDeclaration_rest read
        cases same
        exact within.trans (List.suffix_cons _ _)
      · obtain ⟨others, same, within⟩ := closeDeclaration_rest read
        cases same
        exact within.trans (List.suffix_cons _ _)
      · obtain ⟨others, model, within⟩ := closeDeclaration_rest read
        exact within.trans ((mixedModel?_rest model).trans ⟨[_, _], rfl⟩)
      · obtain ⟨others, model, within⟩ := closeDeclaration_rest read
        exact within.trans ((contentModel?_rest model).trans (List.suffix_cons _ _))
      · obtain ⟨others, same, -⟩ := closeDeclaration_rest read
        cases same

theorem notationDeclaration?_rest (read : notationDeclaration? tokens = some rest) :
    rest <:+ tokens := by
  unfold notationDeclaration? at read
  split at read
  · split at read
    · cases read
      exact ⟨[_, _, _, _], rfl⟩
    · cases read
  · obtain ⟨others, outside, within⟩ := closeDeclaration_rest read
    exact within.trans ((externalId?_rest outside).trans (List.suffix_cons _ _))
  · cases read

end Form

end DocumentType

end SchemaBinding.Xml
