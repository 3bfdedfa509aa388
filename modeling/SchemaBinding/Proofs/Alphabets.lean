import SchemaBinding.Proofs.Tokens
import SchemaBinding.Xml.Document

/-!
# Documents with and without the extra letters

A document is read as the same tree with either alphabet, unless it has an extra
letter and is not well formed in the standard alphabet.  Names inside the texts
of entities are read with the standard alphabet in both cases.
-/

namespace SchemaBinding.Xml

open Alphabet

variable {letters : Prop} {text : List Char}

namespace DocumentType

/-- The same contribution in a document whose names may have the extra letters. -/
def widen (type : DocumentType) : DocumentType :=
  { type with alphabet := .extended }

def AllClear (letters : Prop) (tokens : List Token) : Prop :=
  ∀ token ∈ tokens, token.IsClear letters

theorem AllClear.of_suffix {tokens rest : List Token} (clear : AllClear letters tokens)
    (within : rest <:+ tokens) : AllClear letters rest :=
  fun token member => clear token (within.subset member)

theorem AllClear.tail {token : Token} {rest : List Token}
    (clear : AllClear letters (token :: rest)) : AllClear letters rest :=
  clear.of_suffix (List.suffix_cons token rest)

/-- A type of the standard alphabet, its counterpart, and the same tokens after both. -/
def SameType (letters : Prop) (found other : DocumentType × List Token) : Prop :=
  found.1.alphabet = .standard ∧ other = (found.1.widen, found.2) ∧ AllClear letters found.2

variable {type : DocumentType}

theorem addEntity_widen (type : DocumentType) (entity : Entity) :
    type.widen.addEntity entity = (type.addEntity entity).widen := by
  unfold addEntity
  split
  · next dropped => exact (congrArg widen (if_pos dropped)).symm
  · next counts =>
      symm
      exact (congrArg widen (if_neg counts)).trans rfl

theorem addEntity_alphabet (type : DocumentType) (entity : Entity) :
    (type.addEntity entity).alphabet = type.alphabet := by
  unfold addEntity
  split <;> rfl

theorem addRule_widen (type : DocumentType) (rule : AttributeRule) :
    type.widen.addRule rule = (type.addRule rule).widen := by
  unfold addRule
  split
  · next dropped => exact (congrArg widen (if_pos dropped)).symm
  · next counts =>
      symm
      exact (congrArg widen (if_neg counts)).trans rfl

theorem addRule_alphabet (type : DocumentType) (rule : AttributeRule) :
    (type.addRule rule).alphabet = type.alphabet := by
  unfold addRule
  split <;> rfl

theorem literalText?_agree (standard : type.alphabet = .standard) (clear : Clear letters text) :
    Agree letters Eq (type.literalText? text) (type.widen.literalText? text) := by
  by_cases counts : type.processing
  · have narrow : type.literalText? text = entityText? .standard text :=
      (if_pos counts).trans (by rw [standard])
    have wide : type.widen.literalText? text = entityText? .extended text := if_pos counts
    rw [narrow, wide]
    exact entityText?_agree clear
  · have narrow : type.literalText? text = some [] := if_neg counts
    have wide : type.widen.literalText? text = some [] := if_neg counts
    rw [narrow, wide]
    exact .both rfl

theorem defaultValue?_agree (standard : type.alphabet = .standard) (tokenized : Bool)
    {value : Option (List Char)} (clear : ∀ text ∈ value, Clear letters text) :
    Agree letters Eq (type.defaultValue? tokenized value)
      (type.widen.defaultValue? tokenized value) := by
  unfold defaultValue?
  split
  · exact .both rfl
  · next text =>
      by_cases counts : type.processing
      · have countsWide : type.widen.processing := counts
        rw [if_pos counts, if_pos countsWide, standard]
        refine (Piece.scan?_agree (clear text rfl)).bind fun pieces _ same => ?_
        subst same
        exact .of_related fun _ _ => rfl
      · have countsWide : ¬ type.widen.processing := counts
        rw [if_neg counts, if_neg countsWide]
        exact .both rfl

theorem entityDeclaration?_agree (standard : type.alphabet = .standard) {tokens : List Token}
    (clear : AllClear letters tokens) :
    Agree letters (SameType letters) (type.entityDeclaration? tokens)
      (type.widen.entityDeclaration? tokens) := by
  unfold entityDeclaration?
  split
  · next text rest =>
      have clearText : Clear letters text := clear (.literal text) (by simp)
      exact (literalText?_agree standard clearText).bind fun _ _ _ =>
        .both ⟨standard, rfl, clear.of_suffix ⟨[_, _, _, _], rfl⟩⟩
  · next rest _ =>
      refine .bind_same fun others outside => ?_
      have within := externalId?_rest outside
      split
      · exact .both ⟨standard, rfl, clear.of_suffix
          ((List.suffix_cons _ _).trans (within.trans ⟨[_, _], rfl⟩))⟩
      · exact .neither
  · next name text rest =>
      have clearText : Clear letters text := clear (.literal text) (by simp)
      refine (literalText?_agree standard clearText).bind fun value _ same => ?_
      subst same
      exact .both ⟨addEntity_alphabet type _ ▸ standard, by rw [addEntity_widen],
        clear.of_suffix ⟨[_, _, _], rfl⟩⟩
  · next name rest _ =>
      refine .bind_same fun others outside => ?_
      have within := externalId?_rest outside
      have added (found : List Token) (suffix : found <:+ rest) :
          SameType letters (type.addEntity ⟨name, none⟩, found)
            (type.widen.addEntity ⟨name, none⟩, found) :=
        ⟨addEntity_alphabet type _ ▸ standard, by rw [addEntity_widen],
          clear.tail.of_suffix suffix⟩
      split
      · exact .both (added _ ((List.suffix_cons _ _).trans within))
      · exact .both (added _ (.trans ⟨[_, _, _], rfl⟩ within))
      · exact .neither
  · exact .neither

theorem attributeList?_agree (standard : type.alphabet = .standard) (element : String) (fuel : Nat)
    {tokens : List Token} (clear : AllClear letters tokens) :
    Agree letters (SameType letters) (type.attributeList? element fuel tokens)
      (type.widen.attributeList? element fuel tokens) := by
  -- Along the recursion the two types stay equal but for the alphabet.
  fun_induction attributeList? type element fuel tokens with
  | case1 fuel type rest =>
      rw [attributeList?.eq_1]
      exact .both ⟨standard, rfl, clear.tail⟩
  | case2 type fuel token rest goesOn ih =>
      rw [attributeList?.eq_2 _ _ _ _ _ goesOn]
      refine .bind_same fun name _ => .bind_same fun (tokenized, later) kind => ?_
      refine .bind_same fun (value, remaining) read => ?_
      obtain ⟨within, quoted⟩ := attributeDefault?_rest read
      have clearLater : AllClear letters later :=
        clear.tail.of_suffix (attributeType?_rest kind)
      refine (defaultValue?_agree standard tokenized
        (fun text given => clearLater _ (quoted text given))).bind fun default _ same => ?_
      subst same
      rw [addRule_widen]
      exact ih name tokenized remaining default ((addRule_alphabet type _).trans standard)
        (clearLater.of_suffix within)
  | case3 fuel type tokens ends steps =>
      rw [attributeList?.eq_3 _ _ _ _ ends steps]
      exact .neither

theorem subsetWith_agree (standard : type.alphabet = .standard) (fuel : Nat)
    {tokens : List Token} (clear : AllClear letters tokens) :
    Agree letters (SameType letters) (subsetWith fuel type tokens)
      (subsetWith fuel type.widen tokens) := by
  fun_induction subsetWith fuel type tokens with
  | case1 =>
      rw [subsetWith.eq_1]
      exact .both ⟨standard, rfl, clear.tail⟩
  | case2 fuel type rest ih => exact ih standard clear.tail
  | case3 fuel type name rest ih => exact ih standard clear.tail
  | case4 fuel type rest ih =>
      rw [subsetWith.eq_4]
      refine (entityDeclaration?_agree standard clear.tail).bind fun found _ same => ?_
      obtain ⟨standard, rfl, clear⟩ := same
      exact ih found.1 found.2 standard clear
  | case5 fuel type name rest ih =>
      rw [subsetWith.eq_5]
      refine .bind_same fun element _ => ?_
      refine (attributeList?_agree standard element rest.length clear.tail.tail).bind
        fun found _ same => ?_
      obtain ⟨standard, rfl, clear⟩ := same
      exact ih found.1 found.2 standard clear
  | case6 fuel type rest ih =>
      rw [subsetWith.eq_6]
      exact .bind_same fun others read =>
        ih others standard (clear.tail.of_suffix (elementDeclaration?_rest read))
  | case7 fuel type rest ih =>
      rw [subsetWith.eq_7]
      exact .bind_same fun others read =>
        ih others standard (clear.tail.of_suffix (notationDeclaration?_rest read))
  | case8 fuel type tokens =>
      rw [subsetWith.eq_8]
      · exact .neither
      all_goals assumption

theorem subset?_agree (type : DocumentType) (standard : type.alphabet = .standard)
    {tokens : List Token} (clear : AllClear letters tokens) :
    Agree letters (fun found other => found.alphabet = .standard ∧ other = found.widen)
      (type.subset? tokens) (type.widen.subset? tokens) := by
  unfold subset?
  split
  · exact .both ⟨standard, rfl⟩
  · next rest =>
      refine (subsetWith_agree standard rest.length clear.tail).bind fun found _ same => ?_
      obtain ⟨standard, rfl, clear⟩ := same
      dsimp only
      split
      · exact .both ⟨standard, rfl⟩
      · exact .neither
  · exact .neither

theorem ofTokens?_agree (standalone : Bool) {tokens : List Token}
    (clear : AllClear letters tokens) :
    Agree letters (fun found other => found.alphabet = .standard ∧ other = found.widen)
      (ofTokens? standalone .standard tokens) (ofTokens? standalone .extended tokens) := by
  cases tokens with
  | nil => exact .neither
  | cons name rest =>
      unfold ofTokens?
      refine .bind_same fun _ _ => ?_
      split
      · exact .bind_same fun others read =>
          subset?_agree { absent standalone .standard with incomplete := true } rfl
            (clear.tail.of_suffix (externalId?_rest read))
      · exact subset?_agree (absent standalone .standard) rfl clear.tail

end DocumentType

namespace ContentToken

theorem scanAttributes_agree (fuel : Nat) (clear : Clear letters text) :
    Agree letters (fun found other => found = other ∧ Clear letters found.2.2)
      (scanAttributes .standard fuel text) (scanAttributes .extended fuel text) := by
  induction fuel generalizing text with
  | zero =>
      unfold scanAttributes
      split
      · exact .both ⟨rfl, clear.tail⟩
      · exact .both ⟨rfl, clear.tail.tail⟩
      · next same =>
          cases same
      · exact .neither
  | succ fuel ih =>
      unfold scanAttributes
      split
      · exact .both ⟨rfl, clear.tail⟩
      · exact .both ⟨rfl, clear.tail.tail⟩
      · next c rest _ _ same =>
          obtain rfl := Nat.succ.inj same
          have clearStart : Clear letters (skipSpace rest) := clear.tail.of_skipSpace rfl
          split
          · exact .neither
          · split
            · next after start =>
                rw [start] at clearStart
                exact .both ⟨rfl, clearStart.tail⟩
            · next after start =>
                rw [start] at clearStart
                exact .both ⟨rfl, clearStart.tail.tail⟩
            · refine (scanName?_agree clearStart).bind (fun _ _ => ⟨rfl, rfl, rfl⟩)
                fun name rest clear => ?_
              dsimp only
              split
              · next afterSign sign =>
                  have clearSign := (clear.of_skipSpace sign).tail
                  split
                  · next quote body quoted =>
                      have clearBody := (clearSign.of_skipSpace quoted).tail
                      split
                      · refine .bind_same fun (value, remaining) divided => ?_
                        have clearValue := clearBody.mono (splitAt?_before divided)
                        have clearRest := clearBody.of_suffix (splitAt?_rest divided)
                        refine (Piece.scan?_agree clearValue).bind fun pieces _ same => ?_
                        subst same
                        refine (ih clearRest).bind fun found _ same => ?_
                        obtain ⟨rfl, clear⟩ := same
                        exact .both ⟨rfl, clear⟩
                      · exact .neither
                  · exact .neither
              · exact .neither
      · exact .neither

theorem scan?_agree (clear : Clear letters text) :
    Agree letters (SameScan letters) (scan? .standard text) (scan? .extended text) := by
  unfold scan?
  split
  · next rest =>
      refine .of_related fun found read => ?_
      obtain ⟨remaining, skip, rfl⟩ := Option.map_eq_some_iff.mp read
      exact ⟨rfl, clear.tail.tail.tail.tail.of_suffix (skipComment?_rest skip)⟩
  · next rest _ =>
      refine .of_related fun found read => ?_
      obtain ⟨inside, opened, read⟩ := Option.bind_eq_some_iff.mp read
      obtain ⟨⟨data, remaining⟩, divided, same⟩ := Option.bind_eq_some_iff.mp read
      cases same
      have within := (splitAt?_rest divided).trans (after?_rest opened)
      exact ⟨rfl, clear.tail.tail.of_suffix within⟩
  · next rest =>
      exact (skipInstruction?_agree clear.tail.tail).map fun _ _ ⟨same, clear⟩ =>
        ⟨same ▸ rfl, clear⟩
  · next rest =>
      refine (scanName?_agree clear.tail.tail).bind (fun _ _ => ⟨rfl, rfl, rfl⟩)
        fun name rest clear => ?_
      dsimp only
      split
      · next after ends => exact .both ⟨rfl, (clear.of_skipSpace ends).tail⟩
      · exact .neither
  · next rest _ _ _ =>
      refine (scanName?_agree clear.tail).bind (fun _ _ => ⟨rfl, rfl, rfl⟩)
        fun name rest clear => ?_
      refine (scanAttributes_agree _ clear).bind fun found _ same => ?_
      obtain ⟨rfl, clear⟩ := same
      exact .both ⟨rfl, clear⟩
  · next rest =>
      refine (scan?_reference_agree clear.tail).bind fun found _ same => ?_
      obtain ⟨rfl, clear⟩ := same
      dsimp only
      split
      · exact .both ⟨rfl, clear⟩
      · exact .both ⟨rfl, clear⟩
  · exact .neither
  · exact .both ⟨rfl, clear.tail⟩
  · exact .neither

theorem scanAllWith_agree (fuel : Nat) (clear : Clear letters text) :
    Agree letters Eq (scanAllWith .standard fuel text) (scanAllWith .extended fuel text) := by
  induction fuel generalizing text with
  | zero => cases text with
    | nil => exact .both rfl
    | cons c rest => exact .neither
  | succ fuel ih => cases text with
    | nil => exact .both rfl
    | cons c rest =>
        unfold scanAllWith
        refine (scan?_agree clear).bind fun found _ same => ?_
        obtain ⟨rfl, clear⟩ := same
        refine (ih clear).bind fun tokens _ same => ?_
        subst same
        exact .both rfl

theorem scanAll?_agree (clear : Clear letters text) :
    Agree letters Eq (scanAll? .standard text) (scanAll? .extended text) :=
  scanAllWith_agree text.length clear

end ContentToken

namespace DocumentType

variable {type : DocumentType}

/-- Trees are put together without looking at the characters of names. -/
theorem assemble_widen (type : DocumentType) (entityTrees : String → Option (List Node))
    (tokens : List ContentToken) (stack : List OpenElement) (trees : List Node) :
    type.widen.assemble entityTrees tokens stack trees =
      type.assemble entityTrees tokens stack trees := by
  fun_induction assemble type entityTrees tokens stack trees with
  | case1 => rfl
  | case2 => rfl
  | case3 rest stack trees ih => exact ih
  | case4 name written rest stack trees ih =>
      exact congrArg (Option.bind (type.attributesOf? name written)) (funext ih)
  | case5 name written rest stack trees ih =>
      exact congrArg (Option.bind (type.attributesOf? name written)) (funext ih)
  | case6 => rfl
  | case7 rest element stack trees ih => exact (if_pos rfl).trans ih
  | case8 name rest element stack trees other => exact if_neg other
  | case9 name rest stack trees ih =>
      exact congrArg (Option.bind (entityTrees name)) (funext ih)

theorem entityTrees_widen (type : DocumentType) (depth : Nat) :
    type.widen.entityTrees depth = type.entityTrees depth := by
  induction depth with
  | zero => rfl
  | succ depth ih =>
      funext name
      unfold entityTrees
      rw [ih]
      simp only [assemble_widen]
      rfl

theorem rootOf?_agree (standard : type.alphabet = .standard) (clear : Clear letters text) :
    Agree letters Eq (type.rootOf? text) (type.widen.rootOf? text) := by
  unfold rootOf?
  rw [standard]
  refine (ContentToken.scanAll?_agree clear).bind fun tokens _ same => ?_
  subst same
  rw [assemble_widen, entityTrees_widen]
  exact .of_related fun _ _ => rfl

end DocumentType

namespace Document

theorem skipMisc?_agree (fuel : Nat) (clear : Clear letters text) :
    Agree letters (SameText letters) (skipMisc? .standard fuel text)
      (skipMisc? .extended fuel text) := by
  induction fuel generalizing text with
  | zero => exact .both ⟨rfl, clear⟩
  | succ fuel ih =>
      unfold skipMisc?
      split
      · next rest start =>
          have clearRest := (clear.of_skipSpace start).tail.tail.tail.tail
          exact .bind_same fun after skip => ih (clearRest.of_suffix (skipComment?_rest skip))
      · next rest start =>
          have clearRest := (clear.of_skipSpace start).tail.tail
          refine (skipInstruction?_agree clearRest).bind fun after _ same => ?_
          obtain ⟨rfl, clear⟩ := same
          exact ih clear
      · exact .both ⟨rfl, clear.of_skipSpace rfl⟩

theorem scanDocumentType?_absent (alphabet : Alphabet) (standalone : Bool)
    (absent : ∀ rest, DocumentType.Token.scan? alphabet text ≠
      some (.openDeclaration "DOCTYPE", rest)) :
    scanDocumentType? alphabet standalone text = some (.absent standalone alphabet, text) := by
  unfold scanDocumentType?
  split
  · next rest read => exact absurd read (absent rest)
  · rfl

theorem scanDocumentType?_agree (standalone : Bool) (clear : Clear letters text) :
    Agree letters (fun found other => found.1.alphabet = .standard ∧
        other = (found.1.widen, found.2) ∧ Clear letters found.2)
      (scanDocumentType? .standard standalone text)
      (scanDocumentType? .extended standalone text) := by
  -- The keyword has no extra letter: both readers meet it, or neither does.
  by_cases begins : ∃ rest, DocumentType.Token.scan? .standard text =
      some (.openDeclaration "DOCTYPE", rest)
  · obtain ⟨rest, read⟩ := begins
    have readWide := DocumentType.Token.scan?_of_openDeclaration read .extended
    have agree := DocumentType.Token.scan?_agree clear
    rw [read] at agree
    obtain ⟨other, -, -, -, clearRest⟩ := agree.related_of_some
    unfold scanDocumentType?
    rw [read, readWide]
    dsimp only
    refine (DocumentType.Token.scanAll?_agree clearRest).bind fun found _ same => ?_
    obtain ⟨rfl, clearTokens, clear⟩ := same
    refine (DocumentType.ofTokens?_agree standalone clearTokens).bind fun type _ same => ?_
    obtain ⟨standard, rfl⟩ := same
    refine (skipMisc?_agree _ clear).bind fun after _ same => ?_
    obtain ⟨rfl, clear⟩ := same
    exact .both ⟨standard, rfl, clear⟩
  · have narrow := scanDocumentType?_absent .standard standalone fun rest read =>
      begins ⟨rest, read⟩
    have wide := scanDocumentType?_absent .extended standalone fun rest read =>
      begins ⟨rest, DocumentType.Token.scan?_of_openDeclaration read .standard⟩
    rw [narrow, wide]
    exact .both ⟨rfl, rfl, clear⟩

end Document

namespace Declaration

theorem read?_rest {alphabet : Alphabet} {declaration : Declaration} {rest : List Char}
    (read : read? alphabet text = some (declaration, rest)) : rest <:+ text := by
  unfold read? at read
  split at read
  · cases read
    exact List.suffix_refl _
  · next behind target =>
      split at read
      · cases read
        exact List.suffix_refl _
      · obtain ⟨⟨body, remaining⟩, divided, read⟩ := Option.bind_eq_some_iff.mp read
        obtain ⟨declaration, -, same⟩ := Option.bind_eq_some_iff.mp read
        cases same
        exact (splitAt?_rest divided).trans (after?_rest target)

theorem not_isSpace_atLetter {c : Char} {rest : List Char} (reached : AtLetter (c :: rest)) :
    isSpace c = false := by
  obtain ⟨others, same | same | same⟩ := reached.eq_cons <;> cases same <;> rfl

/-- An extra letter directly behind the opening mark makes a declaration malformed. -/
theorem read?_atLetter {behind : List Char} (target : after? "<?xml".toList text = some behind)
    (reached : AtLetter behind) : read? .standard text = none := by
  have outside :
      (behind.head?.map (fun c => standard.isPart c || c == ':')).getD false = false := by
    obtain ⟨c, others, rfl, extra⟩ := reached
    have noColon : (c == ':') = false := by
      rcases eq_of_extra extra with rfl | rfl | rfl <;> rfl
    simp only [List.head?_cons, Option.map_some, Option.getD_some, not_isPart_extra extra,
      noColon, Bool.or_false]
  have undivided : (splitAt? "?>".toList behind >>= fun parts => readBody? parts.1 >>= fun
      declaration => pure (declaration, parts.2)) = none := by
    cases divided : splitAt? "?>".toList behind with
    | none => rfl
    | some parts =>
        cases known : readBody? parts.1 with
        | none =>
            rw [Option.bind_eq_bind, Option.bind_some, known]
            rfl
        | some declaration =>
            obtain ⟨⟨first, others, body, leads⟩, -⟩ := readBody?_ascii known
            rw [splitAt?_eq_some divided, body] at reached
            rw [not_isSpace_atLetter reached] at leads
            cases leads
  unfold read?
  rw [target]
  dsimp only
  rw [if_neg (Bool.eq_false_iff.mp outside)]
  exact undivided

theorem read?_agree (clear : Clear letters text) :
    Agree letters (SameScan letters) (read? .standard text) (read? .extended text) := by
  cases target : after? "<?xml".toList text with
  | none =>
      have absent (alphabet : Alphabet) : read? alphabet text = some (absent, text) := by
        unfold read?
        rw [target]
      rw [absent, absent]
      exact .both ⟨rfl, clear⟩
  | some behind =>
      have within : behind <:+ text := after?_rest target
      by_cases reached : AtLetter behind
      · rw [read?_atLetter target reached]
        exact .lost ((clear.of_suffix within).given reached) _
      · have sameHead : (behind.head?.map (fun c => extended.isPart c || c == ':')) =
            behind.head?.map (fun c => standard.isPart c || c == ':') := by
          cases behind with
          | nil => rfl
          | cons c rest =>
              have plain : c ∉ extraLetters := fun extra => reached ⟨c, rest, rfl, extra⟩
              have samePart : extended.isPart c = standard.isPart c := by
                rw [Bool.eq_iff_iff, isPart_extended, or_iff_left plain]
              simp only [List.head?_cons, Option.map_some, samePart]
        have same : read? .extended text = read? .standard text := by
          unfold read?
          simp only [target, sameHead]
        rw [same]
        exact .of_related fun found read => ⟨rfl, clear.of_suffix (read?_rest read)⟩

end Declaration

/-- Either alphabet gives the same tree, unless an extra letter keeps the standard one from it. -/
theorem Document.nodeOf?_agree (clear : Clear letters text) :
    Agree letters Eq (Document.nodeOf? .standard text) (Document.nodeOf? .extended text) := by
  unfold Document.nodeOf?
  refine (Declaration.read?_agree clear).bind fun found _ same => ?_
  obtain ⟨rfl, clear⟩ := same
  refine (skipMisc?_agree _ clear).bind fun rest _ same => ?_
  obtain ⟨rfl, clear⟩ := same
  refine (scanDocumentType?_agree _ clear).bind fun found _ same => ?_
  obtain ⟨standard, rfl, clear⟩ := same
  exact DocumentType.rootOf?_agree standard clear

end SchemaBinding.Xml
