import PageComposer.Locale
import PageComposer.Proofs.Composition.Repetition
import PageComposer.Proofs.Text.Blanks

/-!
# The tag of a header

Commas, semicolons and hyphens part a header into languages, weights and subtags.  Its tag is
the `part` in front of the first of them, without blanks around it and in lower case; there is
none if that part is empty or if the first language is a bare wildcard.  So a tag is the one
that it gives itself, unless it is the wildcard, which only a wildcard with subtags behind it
gives.
-/

namespace PageComposer

theorem Value.orElse_of_not_truthy {value other : Value} (falsy : value.truthy = false) :
    value.orElse other = other := by
  rw [orElse, falsy]
  rfl

namespace Locale

variable {header tag : String}

/-! ### The parts of a header -/

/-- What stands between the languages of a header, or before their weights. -/
def separates (char : Char) : Bool := char == ',' || char == ';'

def isMark (char : Char) : Bool := separates char || char == '-'

/-- What stands before the first mark of a header, without blanks around it. -/
def part (header : String) : List Char :=
  Text.stripChars (header.toList.takeWhile fun char => !isMark char)

/-- The rest of a header, from its first mark on. -/
def remainder (header : String) : List Char := header.toList.dropWhile fun char => !isMark char

/-- The first language of a header is the wildcard, without subtags. -/
def IsBareWildcard (header : String) : Prop :=
  part header = ['*'] ∧ (remainder header).head? ≠ some '-'

instance : DecidablePred IsBareWildcard := fun header =>
  inferInstanceAs (Decidable (part header = ['*'] ∧ (remainder header).head? ≠ some '-'))

/-- The first language of a header, without its weight. -/
def firstEntry (header : String) : String :=
  Text.strip (Text.before ';' (Text.before ',' header))

theorem toList_firstEntry (header : String) :
    (firstEntry header).toList =
      Text.stripChars (header.toList.takeWhile fun char => !separates char) := by
  rw [firstEntry, Text.toList_strip, Text.toList_before, Text.toList_before,
    List.takeWhile_takeWhile]
  congr 2
  funext char
  by_cases comma : char = ',' <;> by_cases semicolon : char = ';' <;>
    simp [separates, comma, semicolon]

theorem takeWhile_isMark (chars : List Char) :
    (chars.takeWhile fun char => !separates char).takeWhile (· ≠ '-') =
      chars.takeWhile fun char => !isMark char := by
  rw [List.takeWhile_takeWhile]
  congr 1
  funext char
  by_cases hyphen : char = '-' <;> simp [isMark, hyphen]

theorem toList_primaryTag (entry : String) :
    (primaryTag entry).toList =
      Text.lowerAfter [] (Text.stripChars (entry.toList.takeWhile (· ≠ '-'))) := by
  rw [primaryTag, Text.toList_lower, Text.toList_strip, Text.toList_before]

theorem toList_primaryTag_firstEntry (header : String) :
    (primaryTag (firstEntry header)).toList = Text.lowerAfter [] (part header) := by
  have keeps (char : Char) (blank : Text.isBlank char = true) : decide (char ≠ '-') = true := by
    rw [decide_eq_true_eq]
    rintro rfl
    exact absurd blank (by decide)
  rw [toList_primaryTag, toList_firstEntry, Text.stripChars_takeWhile_stripChars keeps,
    takeWhile_isMark]
  rfl

theorem head?_remainder : ∀ mark ∈ (remainder header).head?, isMark mark = true := by
  intro mark leads
  have stops := List.head?_dropWhile_not (fun char => !isMark char) header.toList
  rw [remainder, Option.mem_def] at leads
  simpa [leads] using stops

/-- Without a hyphen the first part of a header is all of its first language. -/
theorem takeWhile_isMark_of_no_hyphen
    (single : '-' ∉ header.toList.takeWhile fun char => !separates char) :
    (header.toList.takeWhile fun char => !isMark char) =
        header.toList.takeWhile (fun char => !separates char) ∧
      (remainder header).head? ≠ some '-' := by
  have same : (header.toList.takeWhile fun char => !isMark char) =
      header.toList.takeWhile fun char => !separates char := by
    rw [← takeWhile_isMark, List.takeWhile_eq_self_iff]
    intro char member
    rw [decide_eq_true_eq]
    rintro rfl
    exact single member
  have parted : (header.toList.takeWhile fun char => !separates char) ++ remainder header =
      (header.toList.takeWhile fun char => !separates char) ++
        header.toList.dropWhile fun char => !separates char := by
    rw [List.takeWhile_append_dropWhile, ← same]
    exact List.takeWhile_append_dropWhile
  refine ⟨same, fun hyphen => ?_⟩
  have stops := List.head?_dropWhile_not (fun char => !separates char) header.toList
  rw [← List.append_cancel_left parted] at stops
  simp [hyphen, separates] at stops

theorem takeWhile_separates (ends : (remainder header).head? ≠ some '-') :
    (header.toList.takeWhile fun char => !separates char) =
      header.toList.takeWhile fun char => !isMark char := by
  have stops : (remainder header).takeWhile (fun char => !separates char) = [] := by
    cases behind : remainder header with
    | nil => rfl
    | cons mark others =>
        have marked : isMark mark = true := head?_remainder mark (by rw [behind]; rfl)
        have notHyphen : mark ≠ '-' := by
          rintro rfl
          exact ends (by rw [behind]; rfl)
        have separating : separates mark = true := by simpa [isMark, notHyphen] using marked
        simp [separating]
  have whole : header.toList =
      (header.toList.takeWhile fun char => !isMark char) ++ remainder header :=
    List.takeWhile_append_dropWhile.symm
  have unmarked : ∀ char ∈ header.toList.takeWhile fun char => !isMark char,
      (!separates char) = true := by
    intro char member
    have unmarked := List.mem_takeWhile_imp member
    simp only [isMark, Bool.not_or, Bool.and_eq_true] at unmarked
    exact unmarked.1
  conv_lhs => rw [whole]
  rw [List.takeWhile_append_of_pos unmarked, stops, List.append_nil]

theorem firstEntry_eq_star_iff : firstEntry header = "*" ↔ IsBareWildcard header := by
  rw [← String.toList_inj, toList_firstEntry]
  change _ = ['*'] ↔ _
  constructor
  · intro star
    obtain ⟨front, back, whole, blankFront, blankBack⟩ :=
      Text.exists_blanks_around (header.toList.takeWhile fun char => !separates char)
    have single : '-' ∉ header.toList.takeWhile fun char => !separates char := by
      rw [whole, star]
      simp only [List.mem_append, List.mem_singleton]
      rintro (inFront | other | inBack)
      · exact absurd (blankFront '-' inFront) (by decide)
      · exact absurd other (by decide)
      · exact absurd (blankBack '-' inBack) (by decide)
    obtain ⟨same, ends⟩ := takeWhile_isMark_of_no_hyphen single
    exact ⟨by rw [part, same, star], ends⟩
  · rintro ⟨star, ends⟩
    rw [takeWhile_separates ends]
    exact star

theorem ofAcceptLanguage?_eq (header : String) :
    ofAcceptLanguage? header =
      if firstEntry header = "" ∨ firstEntry header = "*" ∨ primaryTag (firstEntry header) = ""
      then none else some (primaryTag (firstEntry header)) := by
  change (if (firstEntry header).isEmpty || firstEntry header = "*" then none
    else if (primaryTag (firstEntry header)).isEmpty then none
      else some (primaryTag (firstEntry header))) = _
  simp only [Bool.or_eq_true, String.isEmpty_iff, decide_eq_true_eq]
  grind

/-- The tag of a header is its first part in lower case, if there is one and if it is not a
wildcard on its own. -/
theorem ofAcceptLanguage?_eq_lower (header : String) :
    ofAcceptLanguage? header =
      if part header = [] ∨ IsBareWildcard header then none
      else some (Text.lower (String.ofList (part header))) := by
  have primary : primaryTag (firstEntry header) = Text.lower (String.ofList (part header)) := by
    apply String.toList_inj.mp
    rw [toList_primaryTag_firstEntry, Text.toList_lower, String.toList_ofList]
  have empty : primaryTag (firstEntry header) = "" ↔ part header = [] := by
    rw [← String.toList_inj, toList_primaryTag_firstEntry]
    exact Text.lowerAfter_eq_nil_iff
  have nothing : firstEntry header = "" → part header = [] := by
    intro missing
    rw [← empty, missing]
    decide
  have gone : (firstEntry header = "" ∨ firstEntry header = "*" ∨
      primaryTag (firstEntry header) = "") ↔ part header = [] ∨ IsBareWildcard header := by
    rw [firstEntry_eq_star_iff, empty]
    constructor
    · rintro (missing | bare | missing)
      · exact .inl (nothing missing)
      · exact .inr bare
      · exact .inl missing
    · rintro (missing | bare)
      · exact .inr (.inr missing)
      · exact .inr (.inl bare)
  rw [ofAcceptLanguage?_eq]
  by_cases missing : part header = [] ∨ IsBareWildcard header
  · rw [if_pos missing, if_pos (gone.mpr missing)]
  · rw [if_neg missing, if_neg (mt gone.mp missing), primary]

theorem ofAcceptLanguage?_eq_none_iff :
    ofAcceptLanguage? header = none ↔ part header = [] ∨ IsBareWildcard header := by
  rw [ofAcceptLanguage?_eq_lower]
  split <;> simp [*]

theorem ofAcceptLanguage?_eq_some_iff :
    ofAcceptLanguage? header = some tag ↔
      part header ≠ [] ∧ ¬ IsBareWildcard header ∧
        tag = Text.lower (String.ofList (part header)) := by
  rw [ofAcceptLanguage?_eq_lower]
  split <;> grind

/-! ### Tags -/

/-- A tag without subtags, blanks around it or capitals, and without the marks that part a
header. -/
structure IsTag (tag : String) : Prop where
  given : tag ≠ ""
  single : ∀ mark ∈ [',', ';', '-'], mark ∉ tag.toList
  stripped : Text.strip tag = tag
  small : Text.lower tag = tag

theorem isMark_iff {char : Char} : isMark char = true ↔ char ∈ [',', ';', '-'] := by
  simp [isMark, separates, or_assoc]

theorem unmarked_of_mem_part {char : Char} (member : char ∈ part header) : isMark char = false := by
  obtain ⟨front, back, whole, -, -⟩ :=
    Text.exists_blanks_around (header.toList.takeWhile fun char => !isMark char)
  have inside : char ∈ header.toList.takeWhile fun char => !isMark char := by
    rw [whole, List.mem_append, List.mem_append]
    exact .inr (.inl member)
  simpa using List.mem_takeWhile_imp inside

theorem isTag_of_header (gives : ofAcceptLanguage? header = some tag) : IsTag tag := by
  obtain ⟨given, -, rfl⟩ := ofAcceptLanguage?_eq_some_iff.mp gives
  have chars : (Text.lower (String.ofList (part header))).toList =
      Text.lowerAfter [] (part header) := by
    rw [Text.toList_lower, String.toList_ofList]
  refine ⟨?_, ?_, ?_, Text.lower_lower _⟩
  · intro empty
    rw [empty] at chars
    exact given (Text.lowerAfter_eq_nil_iff.mp chars.symm)
  · intro mark among member
    rw [chars] at member
    rcases (Text.mem_lowerAfter member).2 with inside | ⟨letter, -⟩
    · have unmarked := unmarked_of_mem_part inside
      simp [isMark_iff.mpr among] at unmarked
    · simp only [List.mem_cons, List.not_mem_nil, or_false] at among
      rcases among with rfl | rfl | rfl <;> exact absurd letter (by decide)
  · apply String.toList_inj.mp
    rw [Text.toList_strip, chars]
    exact Text.stripChars_of_trimmed (Text.trimmed_lowerAfter (Text.trimmed_stripChars _))

/-- A tag is a header with a single part. -/
theorem IsTag.part_eq (isTag : IsTag tag) : part tag = tag.toList ∧ remainder tag = [] := by
  have unmarked : ∀ char ∈ tag.toList, (!isMark char) = true := by
    intro char member
    rw [Bool.not_eq_true', Bool.eq_false_iff, Ne, isMark_iff]
    exact fun among => isTag.single char among member
  constructor
  · rw [part, List.takeWhile_eq_self_iff.mpr unmarked, ← Text.toList_strip, isTag.stripped]
  · exact List.dropWhile_eq_nil_iff.mpr unmarked

/-- A tag is the one that it gives itself, unless it is the wildcard. -/
theorem IsTag.ofAcceptLanguage?_eq (isTag : IsTag tag) :
    ofAcceptLanguage? tag = if tag = "*" then none else some tag := by
  -- The tag is its own first part and nothing is behind it, so no subtags save a wildcard.
  obtain ⟨whole, nothing⟩ := isTag.part_eq
  have given : tag.toList ≠ [] := by
    rw [Ne, String.toList_eq_nil_iff]
    exact isTag.given
  have bare : IsBareWildcard tag ↔ tag = "*" := by
    rw [IsBareWildcard, whole, nothing, ← String.toList_inj]
    simp
  rw [ofAcceptLanguage?_eq_lower, whole, String.ofList_toList, isTag.small]
  simp [given, bare]

theorem lowerAfter_eq_star_iff {chars : List Char} :
    Text.lowerAfter [] chars = ['*'] ↔ chars = ['*'] := by
  constructor
  · intro star
    cases chars with
    | nil => simp [Text.lowerAfter] at star
    | cons first rest =>
        rw [Text.lowerAfter_cons, List.append_eq_singleton_iff] at star
        rcases star with ⟨none, -⟩ | ⟨star, none⟩
        · exact absurd none Text.loweredAt_ne_nil
        · obtain rfl := Text.lowerAfter_eq_nil_iff.mp none
          have member : '*' ∈ Text.loweredAt [] first [] := by simp [star]
          rcases (Text.mem_loweredAt member).2 with rfl | ⟨letter, -⟩
          · rfl
          · exact absurd letter (by decide)
  · rintro rfl
    decide

/-- The wildcard is the tag of a header whose first language is the wildcard with subtags. -/
theorem gives_star_iff :
    ofAcceptLanguage? header = some "*" ↔
      part header = ['*'] ∧ (remainder header).head? = some '-' := by
  have star : "*" = Text.lower (String.ofList (part header)) ↔ part header = ['*'] := by
    rw [← String.toList_inj, Text.toList_lower, eq_comm, ← lowerAfter_eq_star_iff,
      String.toList_ofList]
    rfl
  rw [ofAcceptLanguage?_eq_some_iff, star, IsBareWildcard]
  grind

/-! ### The locale of a request -/

/-- The request says nothing in its query about its locale, and accepts the languages of a
header. -/
structure AsksByHeader (request : Request) (header : String) : Prop where
  accepts : request.header "accept-language" .null = .str header
  query : ∃ entries, request.query = .object entries ∧
    (Fields.getD entries "locale").truthy = false ∧ (Fields.getD entries "lang").truthy = false

theorem resolve_of_header {request : Request} (asks : AsksByHeader request header)
    (gives : ofAcceptLanguage? header = some tag) (default : Value) :
    resolve request default = .ok (.str tag) := by
  obtain ⟨entries, query, noLocale, noLang⟩ := asks.query
  have given := (isTag_of_header gives).given
  have accepted : ofHeader (request.header "accept-language" .null) = .str tag := by
    rw [asks.accepts, ofHeader, gives]
    rfl
  have found : (Fields.getD entries "locale").orElse
      ((Fields.getD entries "lang").orElse ((Value.str tag).orElse default)) = .str tag := by
    rw [Value.orElse_of_not_truthy noLocale, Value.orElse_of_not_truthy noLang, Value.orElse,
      if_pos (by simpa [Value.truthy] using given)]
  simp only [resolve, query, accepted, Value.entries, found, bind, Except.bind]
  simp [given, pure, Except.pure]

end Locale

namespace Composition

theorem request?_of_context {page : Value} {request : Request} {start : Context}
    (opened : context page request = .ok start) : start.request? = some request := by
  simp only [context, bind, Except.bind] at opened
  rcases flags : flagsOfHeader (request.header "x-flags" .null) with fault | names
  · simp [flags] at opened
  · rcases found : page.lookup "root" with fault | tree
    · simp [flags, found] at opened
    · simp only [flags, found] at opened
      cases opened
      rfl

/-- The locale of a composed page is that of the request. -/
theorem locale_of_answer {standIns : Option Text.StandIns} {settings : Settings}
    {page composed : Value} {request : Request}
    (answered : answer standIns settings page request = .ok composed) :
    ∃ locale, Locale.resolve request (.str settings.defaultLocale) = .ok locale ∧
      entryOf? (infoOf composed) "locale" = some locale := by
  unfold answer at answered
  rcases opened : context page request with fault | start
  · simp [opened, bind, Except.bind] at answered
  · simp only [opened, bind, Except.bind] at answered
    obtain ⟨after, prepared, merged, -⟩ := compose_ok_iff.mp answered
    obtain ⟨located, bucketed, first, second, third⟩ := prepare_ok_iff.mp prepared
    obtain ⟨asked, locale, known, resolved, rfl⟩ := locate_ok_iff.mp first
    obtain ⟨name, label, -, -, rfl⟩ := allot_ok_iff.mp second
    obtain ⟨fields, info, written, -, -, -, rfl⟩ := merge_ok_iff.mp merged
    have kept : after.locale = locale := by
      rcases pruneTree_ok_iff.mp third with ⟨-, rfl⟩ | ⟨-, left, names, -, rfl⟩ <;> rfl
    rw [Context.request, request?_of_context opened, Except.ok.injEq] at known
    rw [← known] at resolved
    refine ⟨locale, resolved, ?_⟩
    simp [infoOf, entryOf?, get?_dressed_meta, Fields.get?_insert, kept]

end Composition

namespace Locale

/-- A header gives no tag just when nothing stands in its first part or when its first language
is a bare wildcard.  Else the tag is the first part in lower case.  It is not empty, holds no
comma, semicolon or hyphen, has no blanks at its ends and is in lower case.  It is the wildcard
just when this is the first part and subtags are behind it; every other tag is the one that it
gives itself, and the wildcard gives none.  The tag is the locale of a request that asks for
none in its query, and of every page that is composed for it. -/
theorem tag_of_header (header : String) :
    (ofAcceptLanguage? header = none ↔ part header = [] ∨ IsBareWildcard header) ∧
      ∀ tag, ofAcceptLanguage? header = some tag →
        tag = Text.lower (String.ofList (part header)) ∧
        (tag ≠ "" ∧ (∀ mark ∈ [',', ';', '-'], mark ∉ tag.toList) ∧ Text.strip tag = tag ∧
          Text.lower tag = tag) ∧
        (tag = "*" ↔ part header = ['*'] ∧ (remainder header).head? = some '-') ∧
        ofAcceptLanguage? tag = (if tag = "*" then none else some tag) ∧
        ∀ request, AsksByHeader request header →
          (∀ default, resolve request default = .ok (.str tag)) ∧
          ∀ standIns settings page composed,
            Composition.answer standIns settings page request = .ok composed →
              Composition.entryOf? (Composition.infoOf composed) "locale" = some (.str tag) := by
  refine ⟨ofAcceptLanguage?_eq_none_iff, fun tag gives => ?_⟩
  have isTag := isTag_of_header gives
  refine ⟨(ofAcceptLanguage?_eq_some_iff.mp gives).2.2,
    ⟨isTag.given, isTag.single, isTag.stripped, isTag.small⟩, ?_, isTag.ofAcceptLanguage?_eq, ?_⟩
  · rw [← gives_star_iff, gives, Option.some.injEq]
  · intro request asks
    refine ⟨resolve_of_header asks gives, fun standIns settings page composed answered => ?_⟩
    obtain ⟨locale, resolved, written⟩ := Composition.locale_of_answer answered
    rw [resolve_of_header asks gives, Except.ok.injEq] at resolved
    rw [written, resolved]

/-- A request that accepts French before English. -/
def frenchRequest : Request :=
  ⟨[("accept-language", "\u2003FR-ca;q=0.9,en")], .object [], .object [], .null⟩

theorem tag_of_header_french :
    ofAcceptLanguage? "\u2003FR-ca;q=0.9,en" = some "fr" ∧
      AsksByHeader frenchRequest "\u2003FR-ca;q=0.9,en" ∧
      ofAcceptLanguage? "fr" = some "fr" ∧ resolve frenchRequest (.str "en") = .ok (.str "fr") := by
  have gives : ofAcceptLanguage? "\u2003FR-ca;q=0.9,en" = some "fr" := by decide
  have asks : AsksByHeader frenchRequest "\u2003FR-ca;q=0.9,en" := ⟨rfl, [], rfl, rfl, rfl⟩
  obtain ⟨-, given⟩ := tag_of_header "\u2003FR-ca;q=0.9,en"
  obtain ⟨-, -, -, again, located⟩ := given "fr" gives
  exact ⟨gives, asks, again, (located _ asks).1 _⟩

/-- The wildcard is the tag of a header and the locale of a request, and gives no tag itself. -/
theorem subtagged_wildcard :
    ofAcceptLanguage? "*-CH" = some "*" ∧ ofAcceptLanguage? "*" = none ∧
      resolve ⟨[("accept-language", "*-CH")], .object [], .object [], .null⟩ (.str "en") =
        .ok (.str "*") := by
  decide

end Locale

end PageComposer
