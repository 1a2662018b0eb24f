import ActionGateway.Proofs.StrippedText
import ActionGateway.Upload.ContentKind
import Mathlib

/-!
# Content types as they are written

A content type is an essence with parameters after it, each behind a semicolon; a parameter may have
a value behind an equals sign. `Respelled` says that two content types are the same but for the case
of ASCII letters and blank space around these pieces. Both then stand for one kind of content: its
essence in lower case, and the first charset that a parameter gives.
-/

namespace ActionGateway.ContentKind

open Text (isBlank strip IsCore isCore_iff)

/-! ## The case of letters -/

/-- A kind of characters without letters does not care for case. -/
theorem toLower_of_letterless {kind : Char → Bool}
    (letterless : ∀ c : Char, c.isAlpha = true → kind c = false) (c : Char) :
    kind c.toLower = kind c := by
  by_cases upper : c.isUpper = true
  · have letter : c.isAlpha = true := by
      rw [Char.isAlpha, upper, Bool.true_or]
    have lowered : c.toLower.isAlpha = true := by
      rw [Char.isAlpha_toLower_eq_isAlpha, letter]
    rw [letterless c letter, letterless _ lowered]
  · rw [Char.toLower_eq_of_not_isUpper upper]

/-- No letter is blank. -/
theorem isBlank_toLower (c : Char) : isBlank c.toLower = isBlank c := by
  apply toLower_of_letterless
  intro letter alphabetic
  simp only [Char.isAlpha, Char.isUpper, Char.isLower, ge_iff_le, UInt32.le_iff_toNat_le,
    Bool.or_eq_true, Bool.and_eq_true, decide_eq_true_eq] at alphabetic
  have code : letter.val.toNat = letter.toNat := rfl
  simp only [code, UInt32.reduceToNat, Char.reduceVal] at alphabetic
  simp only [isBlank, Bool.or_eq_false_iff, Bool.and_eq_false_iff, decide_eq_false_iff_not,
    beq_eq_false_iff_ne]
  omega

theorem quote_toLower (c : Char) : (c.toLower == '"') = (c == '"') := by
  refine @toLower_of_letterless (· == '"') ?_ c
  intro letter alphabetic
  apply beq_false_of_ne
  rintro rfl
  exact absurd alphabetic (by decide)

/-- Case and the white space around a text do not interfere. -/
theorem lower_trim (text : List Char) : lower (Text.trim text) = Text.trim (lower text) :=
  Text.map_strip isBlank_toLower text

/-- Case and quotes do not interfere. -/
theorem lower_unquoted (text : List Char) : lower (unquoted text) = unquoted (lower text) :=
  Text.map_strip quote_toLower text

/-! ## Essence and parameters -/

/-- **A content type as it is written**: an essence, and parameters behind semicolons. Where there
is no content type there are no characters either. -/
inductive IsWritten : Option String → List Char → List (List Char) → Prop where
  | absent : IsWritten none [] []
  | given {essence : List Char} {parameters : List (List Char)}
      (apart : ∀ piece ∈ essence :: parameters, ';' ∉ piece) :
      IsWritten (some (String.ofList ([';'].intercalate (essence :: parameters)))) essence
        parameters

/-- No piece of a split text has the character at which it is split. -/
theorem not_mem_of_mem_splitOn {separator : Char} {text piece : List Char}
    (member : piece ∈ text.splitOn separator) : separator ∉ piece := by
  induction text generalizing piece with
  | nil =>
      rw [List.splitOn_nil, List.mem_singleton] at member
      rw [member]
      exact List.not_mem_nil
  | cons c rest ih =>
      rw [List.splitOn_cons_eq_if_modifyHead] at member
      split at member
      · rcases List.mem_cons.mp member with rfl | later
        · exact List.not_mem_nil
        · exact ih later
      · rename_i other
        obtain ⟨first, others, split⟩ :=
          List.exists_cons_of_ne_nil (List.splitOn_ne_nil separator rest)
        rw [split, List.modifyHead_cons] at member
        rw [split] at ih
        rcases List.mem_cons.mp member with rfl | later
        · apply List.not_mem_cons_of_ne_of_not_mem _ (ih List.mem_cons_self)
          rintro rfl
          exact other (beq_self_eq_true _)
        · exact ih (List.mem_cons_of_mem _ later)

/-- Every content type is written in some way. -/
theorem exists_isWritten (contentType : Option String) :
    ∃ essence parameters, IsWritten contentType essence parameters := by
  cases contentType with
  | none => exact ⟨[], [], .absent⟩
  | some text =>
      have pieces := List.splitOn_ne_nil ';' text.toList
      obtain ⟨essence, parameters, split⟩ := List.exists_cons_of_ne_nil pieces
      have apart : ∀ piece ∈ essence :: parameters, ';' ∉ piece := by
        rw [← split]
        intro piece member
        exact not_mem_of_mem_splitOn member
      have written := IsWritten.given apart
      rw [← split, List.intercalate_splitOn, String.ofList_toList] at written
      exact ⟨essence, parameters, written⟩

/-- A content type is read as its type in lower case and its first charset. -/
theorem ofContentType_eq {contentType : Option String} {essence : List Char}
    {parameters : List (List Char)} (written : IsWritten contentType essence parameters) :
    ofContentType contentType =
      ⟨String.ofList (lower (Text.trim essence)), parameters.findSome? charset?⟩ := by
  cases written with
  | absent => rfl
  | given apart =>
      rw [ofContentType, String.toList_ofList,
        List.splitOn_intercalate ';' apart (List.cons_ne_nil _ _)]

/-- A parameter without an equals sign gives no charset. -/
theorem charset?_flag {parameter : List Char} (bare : '=' ∉ parameter) :
    charset? parameter = none := by
  have all : ∀ c ∈ parameter, (c != '=') = true := by
    intro c member
    rw [bne_iff_ne]
    rintro rfl
    exact bare member
  rw [charset?, List.span_eq_takeWhile_dropWhile, List.dropWhile_eq_nil_iff.mpr all]

/-- A parameter gives a charset when its name is that word, in whatever case. -/
theorem charset?_pair {name : List Char} (bare : '=' ∉ name) (value : List Char) :
    charset? (name ++ '=' :: value) =
      if lower (Text.trim name) = "charset".toList then
        some (String.ofList (lower (unquoted (Text.trim value))))
      else none := by
  have all : ∀ c ∈ name, (c != '=') = true := by
    intro c member
    rw [bne_iff_ne]
    rintro rfl
    exact bare member
  rw [charset?, List.span_eq_takeWhile_dropWhile, List.takeWhile_append_of_pos all,
    List.dropWhile_append_of_pos all, List.takeWhile_cons_of_neg (by decide),
    List.dropWhile_cons_of_neg (by decide), List.append_nil]

/-! ## Spellings -/

/-- The texts are the same but for the case of ASCII letters and the blank space around them. -/
inductive Respaced : List Char → List Char → Prop where
  | intro {before after otherBefore otherAfter core otherCore : List Char}
      (blank : ∀ c ∈ before ++ after, isBlank c = true)
      (otherBlank : ∀ c ∈ otherBefore ++ otherAfter, isBlank c = true)
      (letters : lower core = lower otherCore) :
      Respaced (before ++ core ++ after) (otherBefore ++ otherCore ++ otherAfter)

/-- The parameters are the same but for the case of ASCII letters and the blank space around them
and around their equals signs. -/
inductive RespelledParameter : List Char → List Char → Prop where
  | flag {parameter other : List Char} (bare : '=' ∉ parameter) (otherBare : '=' ∉ other)
      (respaced : Respaced parameter other) : RespelledParameter parameter other
  | pair {name other value otherValue : List Char} (bare : '=' ∉ name) (otherBare : '=' ∉ other)
      (names : Respaced name other) (values : Respaced value otherValue) :
      RespelledParameter (name ++ '=' :: value) (other ++ '=' :: otherValue)

/-- **Two spellings of a content type.** -/
inductive Respelled : String → String → Prop where
  | intro {contentType other : String} {essence otherEssence : List Char}
      {parameters others : List (List Char)}
      (written : IsWritten (some contentType) essence parameters)
      (otherWritten : IsWritten (some other) otherEssence others)
      (essences : Respaced essence otherEssence)
      (spelled : List.Forall₂ RespelledParameter parameters others) : Respelled contentType other

/-- White space around a text and the case of its letters do not count. -/
theorem Respaced.lower_trim_eq {text other : List Char} (respaced : Respaced text other) :
    lower (Text.trim text) = lower (Text.trim other) := by
  cases respaced with
  | intro blank otherBlank letters =>
      rw [Text.trim_padded blank, Text.trim_padded otherBlank, lower_trim, lower_trim, letters]

/-- A parameter that is spelled otherwise gives the same charset. -/
theorem RespelledParameter.charset?_eq {parameter other : List Char}
    (respelled : RespelledParameter parameter other) : charset? parameter = charset? other := by
  cases respelled with
  | flag bare otherBare respaced => rw [charset?_flag bare, charset?_flag otherBare]
  | pair bare otherBare names values =>
      rw [charset?_pair bare, charset?_pair otherBare, names.lower_trim_eq, lower_unquoted,
        lower_unquoted, values.lower_trim_eq]

/-- Parameters that are spelled otherwise give the same first charset. -/
theorem charsets_eq {parameters others : List (List Char)}
    (spelled : List.Forall₂ RespelledParameter parameters others) :
    parameters.findSome? charset? = others.findSome? charset? := by
  induction spelled with
  | nil => rfl
  | cons own _ ih => rw [List.findSome?_cons, List.findSome?_cons, own.charset?_eq, ih]

/-- **Spellings of one content type stand for one kind of content.** -/
theorem Respelled.ofContentType_eq {contentType other : String}
    (respelled : Respelled contentType other) :
    ofContentType (some contentType) = ofContentType (some other) := by
  cases respelled with
  | intro written otherWritten essences spelled =>
      rw [ContentKind.ofContentType_eq written, ContentKind.ofContentType_eq otherWritten,
        essences.lower_trim_eq, charsets_eq spelled]

/-! ## Charsets -/

/-- **A parameter gives a charset**: its name is that of a charset, in letters of either case. The
charset is its value in lower case, without blank space and then without quotes around it. -/
inductive GivesCharset : List Char → String → Prop where
  | intro {name key value quoted charset : List Char} (bare : '=' ∉ name)
      (nameCore : IsCore isBlank name key) (named : lower key = "charset".toList)
      (valueCore : IsCore isBlank value quoted) (charsetCore : IsCore (· == '"') quoted charset) :
      GivesCharset (name ++ '=' :: value) (String.ofList (lower charset))

/-- **The first charset** that one of the parameters gives. -/
inductive FirstCharset : List (List Char) → String → Prop where
  | here {parameter : List Char} {rest : List (List Char)} {charset : String} :
      GivesCharset parameter charset → FirstCharset (parameter :: rest) charset
  | later {parameter : List Char} {rest : List (List Char)} {charset : String} :
      (∀ other, ¬ GivesCharset parameter other) → FirstCharset rest charset →
      FirstCharset (parameter :: rest) charset

/-- What is read from a parameter is the charset that it gives. -/
theorem charset?_eq_some_iff {parameter : List Char} {charset : String} :
    charset? parameter = some charset ↔ GivesCharset parameter charset := by
  constructor
  · intro given
    by_cases valued : '=' ∈ parameter
    · obtain ⟨name, value, rfl, bare⟩ := List.eq_append_cons_of_mem valued
      rw [charset?_pair bare] at given
      split at given
      · rename_i named
        cases given
        exact .intro bare (isCore_iff.mpr rfl) named (isCore_iff.mpr rfl) (isCore_iff.mpr rfl)
      · cases given
    · rw [charset?_flag valued] at given
      cases given
  · intro gives
    cases gives with
    | intro bare nameCore named valueCore charsetCore =>
        have key := isCore_iff.mp nameCore
        have quoted := isCore_iff.mp valueCore
        have inner := isCore_iff.mp charsetCore
        rw [charset?_pair bare, Text.trim_eq_strip, key, if_pos named, Text.trim_eq_strip, quoted]
        exact congrArg (fun text => some (String.ofList (lower text))) inner

/-- What is read from parameters is the first charset that one of them gives. -/
theorem firstCharset_iff {parameters : List (List Char)} {charset : String} :
    parameters.findSome? charset? = some charset ↔ FirstCharset parameters charset := by
  induction parameters with
  | nil =>
      constructor
      · intro found
        cases found
      · intro first
        cases first
  | cons parameter rest ih =>
      rw [List.findSome?_cons]
      cases own : charset? parameter with
      | some given =>
          have gives := charset?_eq_some_iff.mp own
          constructor
          · intro found
            cases found
            exact .here gives
          · intro first
            cases first with
            | here again => rw [← own, charset?_eq_some_iff.mpr again]
            | later nothing _ => exact absurd gives (nothing given)
      | none =>
          have nothing (other : String) : ¬ GivesCharset parameter other := by
            intro gives
            cases own.symm.trans (charset?_eq_some_iff.mpr gives)
          dsimp only
          rw [ih]
          constructor
          · exact .later nothing
          · intro first
            cases first with
            | here gives => exact absurd gives (nothing charset)
            | later _ first => exact first

end ActionGateway.ContentKind
