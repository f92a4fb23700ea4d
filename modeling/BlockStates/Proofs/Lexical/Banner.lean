import BlockStates.Proofs.Lexical.CommentDepth
import BlockStates.Proofs.Lexical.Composition

/-!
# The licence banner

A header is left as it is, line by line, but that its closers are parted.  So the
comment around it is one token, which ends where the banner ends it, unless the
header opens comments itself: they stay open, and all that follows is inside.
-/

set_option autoImplicit false

namespace BlockStates.Lexical

open SourceUnit (licenseLine licenseBanner)

structure FreeOfMarks (text : List Char) : Prop where
  noOpener : ¬ ['/', '*'] <:+: text
  noCloser : ¬ ['*', '/'] <:+: text

/-- The tokens of the licence banner: one comment, and the end of its line with
an empty one. -/
def licenseTokens (header : String) : List Token :=
  match Text.trim header.toList with
  | [] => []
  | text =>
    .blockComment ("/*\n" ++ String.ofList ((Text.lines text).flatMap licenseLine) ++ "*/") ::
      tokensOf "\n\n"

section Header

variable {header : String}

theorem licenseBanner_of_blank (blank : Text.trim header.toList = []) :
    licenseBanner header = "" ∧ licenseTokens header = [] := by
  simp [licenseBanner, licenseTokens, blank]

def licenseComment (header : String) : String :=
  "/*\n" ++ String.ofList ((Text.lines (Text.trim header.toList)).flatMap licenseLine) ++ "*/"

theorem licenseComment_eq (header : String) :
    ∃ content, licenseComment header = "/*" ++ content ++ "*/" := by
  refine ⟨"\n" ++ String.ofList ((Text.lines (Text.trim header.toList)).flatMap licenseLine), ?_⟩
  have opening : "/*\n" = "/*" ++ "\n" := by decide
  simp only [licenseComment, opening, String.append_assoc]

theorem licenseBanner_of_text (isText : Text.trim header.toList ≠ []) :
    licenseBanner header = licenseComment header ++ "\n\n" ∧
      licenseTokens header = .blockComment (licenseComment header) :: tokensOf "\n\n" := by
  unfold licenseBanner licenseTokens licenseComment
  have ending : "*/\n\n" = "*/" ++ "\n\n" := by decide
  rw [ending]
  cases trimmed : Text.trim header.toList with
  | nil => exact absurd trimmed isText
  | cons first rest => exact ⟨(String.append_assoc).symm, rfl⟩

theorem toList_licenseComment (header : String) :
    (licenseComment header).toList =
      "/*\n".toList ++ (Text.lines (Text.trim header.toList)).flatMap licenseLine ++
        "*/".toList := by
  simp only [licenseComment, String.toList_append, String.toList_ofList]

/-- Behind its lines the comment is as deep as the header has openers, and then it
is closed once. -/
theorem scan_licenseComment (header : String) :
    scan (licenseComment header) =
      match openers header.toList with
      | 0 => ([.blockComment (licenseComment header)], .code)
      | depth + 1 => ([], .blockComment depth none (licenseComment header).toList) := by
  have opened : Mode.code.run "/*\n".toList = ([], .blockComment 0 (some '\n') "/*\n".toList) := by
    decide
  rw [scan, toList_licenseComment, Mode.run_append, Mode.run_append, opened, run_licenseLines,
    openers_lines, openers_trim, Nat.zero_add]
  have whole := congrArg String.ofList (toList_licenseComment header)
  rw [String.ofList_toList] at whole
  cases openers header.toList with
  | zero => simp [Mode.run_cons, Mode.step, whole]
  | succ depth => simp [Mode.run_cons, Mode.step]

theorem scan_licenseBanner_closed (noOpener : openers header.toList = 0) :
    scan (licenseBanner header) = (licenseTokens header, .code) := by
  by_cases isText : Text.trim header.toList = []
  · obtain ⟨banner, tokens⟩ := licenseBanner_of_blank isText
    rw [banner, tokens]
    rfl
  · obtain ⟨banner, tokens⟩ := licenseBanner_of_text isText
    have blank : Mode.code.run "\n\n".toList = (tokensOf "\n\n", .code) := rfl
    rw [banner, tokens, scan_append, scan_licenseComment, noOpener, blank]
    rfl

theorem scan_licenseBanner_open {depth : Nat} (hasOpener : openers header.toList = depth + 1) :
    scan (licenseBanner header) =
      ([], .blockComment depth (some '\n') (licenseBanner header).toList) := by
  have isText : Text.trim header.toList ≠ [] := by
    intro blank
    rw [← openers_trim, blank] at hasOpener
    cases hasOpener
  rw [(licenseBanner_of_text isText).1, scan_append, scan_licenseComment, hasOpener]
  simp [Mode.run_cons, Mode.step]

/-- The licence banner is one comment, whatever lines it has. -/
theorem FreeOfMarks.scans_licenseBanner (free : FreeOfMarks header.toList) :
    Scans [] (licenseBanner header) (licenseTokens header) [] where
  scan_eq := scan_licenseBanner_closed ((openers_eq_zero_iff _).mpr free.noOpener)
  nested := by
    unfold licenseTokens
    split <;> rfl

/-! ## Banners of units -/

theorem licenseBanner_eq_empty_iff :
    licenseBanner header = "" ↔ ∀ character ∈ header.toList, Text.isWhiteSpace character := by
  rw [← trim_eq_nil_iff]
  refine ⟨fun isEmpty => ?_, fun blank => (licenseBanner_of_blank blank).1⟩
  by_contra isText
  rw [(licenseBanner_of_text isText).1] at isEmpty
  have noCharacters := congrArg String.toList isEmpty
  rw [String.toList_append, toList_licenseComment] at noCharacters
  simp at noCharacters

end Header

theorem value_generate_append (layout : Layout) (options : Options) :
    (layout.generate options).value =
      licenseBanner options.licenseHeader ++
        (layout.generate { options with licenseHeader := "" }).value := by
  have noBanner : licenseBanner "" = "" := by decide
  simp only [Layout.generate, Layout.sourceUnit, SourceUnit.text, noBanner, String.empty_append,
    String.append_assoc]

/-- The licence banner is empty just for a header of white space.  Otherwise it is
one comment with an empty line behind it, exactly if the header opens no comment;
then the rest of the unit is scanned as though the banner were not there.  What
the header opens is open behind the banner as well. -/
theorem license_banner_closed_iff (layout : Layout) (options : Options) :
    let banner := licenseBanner options.licenseHeader
    let rest := (layout.generate { options with licenseHeader := "" }).value
    (layout.generate options).value = banner ++ rest ∧
      (banner = "" ↔ ∀ character ∈ options.licenseHeader.toList, Text.isWhiteSpace character) ∧
      (banner ≠ "" →
        ((∃ content, banner = "/*" ++ content ++ "*/" ++ "\n\n" ∧
            scan banner = (.blockComment ("/*" ++ content ++ "*/") :: tokensOf "\n\n", .code)) ↔
          ¬ ['/', '*'] <:+: options.licenseHeader.toList)) ∧
      (¬ ['/', '*'] <:+: options.licenseHeader.toList →
        scan (banner ++ rest) = (tokensOf banner ++ (scan rest).1, (scan rest).2)) ∧
      (['/', '*'] <:+: options.licenseHeader.toList →
        ∃ depth, openers options.licenseHeader.toList = depth + 1 ∧
          scan banner = ([], .blockComment depth (some '\n') banner.toList)) := by
  intro banner rest
  have counted := openers_eq_zero_iff options.licenseHeader.toList
  have isOpen (opener : ['/', '*'] <:+: options.licenseHeader.toList) :
      ∃ depth, openers options.licenseHeader.toList = depth + 1 ∧
        scan banner = ([], .blockComment depth (some '\n') banner.toList) := by
    obtain ⟨depth, hasOpener⟩ := Nat.exists_eq_succ_of_ne_zero (mt counted.mp (not_not.mpr opener))
    exact ⟨depth, hasOpener, scan_licenseBanner_open hasOpener⟩
  refine ⟨value_generate_append layout options, licenseBanner_eq_empty_iff, ?_, ?_, isOpen⟩
  · intro isText
    constructor
    · rintro ⟨content, -, scanned⟩ opener
      obtain ⟨depth, -, unfinished⟩ := isOpen opener
      cases scanned.symm.trans unfinished
    · intro noOpener
      have hasText : Text.trim options.licenseHeader.toList ≠ [] :=
        fun blank => isText (licenseBanner_of_blank blank).1
      obtain ⟨isBanner, tokens⟩ := licenseBanner_of_text hasText
      obtain ⟨content, isComment⟩ := licenseComment_eq options.licenseHeader
      have scanned := scan_licenseBanner_closed (counted.mpr noOpener)
      rw [tokens] at scanned
      exact ⟨content, isComment ▸ isBanner, isComment ▸ scanned⟩
  · intro noOpener
    have scanned : scan banner = _ := scan_licenseBanner_closed (counted.mpr noOpener)
    rw [scan_append, tokensOf, scanned]
    rfl

/-- For a header that is nothing but an opener, the last closer of the banner closes
what the header opens, and the text behind it is inside of the comment. -/
theorem license_banner_left_open :
    (¬ ∀ character ∈ "/*".toList, Text.isWhiteSpace character) ∧
      (¬ ∃ content, licenseBanner "/*" = "/*" ++ content ++ "*/" ++ "\n\n" ∧
        scan (licenseBanner "/*") =
          (.blockComment ("/*" ++ content ++ "*/") :: tokensOf "\n\n", .code)) ∧
      ∀ following, ClosesNone following.toList → (scan (licenseBanner "/*" ++ following)).1 = [] := by
  have counted : openers "/*".toList = 0 + 1 := by decide
  have scanned := scan_licenseBanner_open counted
  refine ⟨fun blank => absurd (blank '/' (by decide)) (by decide), ?_, ?_⟩
  · rintro ⟨content, -, closed⟩
    cases scanned.symm.trans closed
  · intro following closesNone
    have afterFeed : ClosesNone ((some '\n').toList ++ following.toList) := by
      simpa [ClosesNone, List.infix_cons_iff] using closesNone
    obtain ⟨last, isRun⟩ := run_blockComment afterFeed 0 (licenseBanner "/*").toList
    rw [scan_append, scanned, isRun]
    rfl

/-- The first header closes comments, which are parted; the second opens one. -/
theorem license_banner_closed_iff_of_marks :
    (scan (Layout.generate ∅ { licenseHeader := "Free */\r\n\n*/ for all " }).value =
      (tokensOf "/*\n  Free * /\n\n  * / for all\n*/\n\n" ++
        (scan (Layout.generate ∅ { licenseHeader := "" }).value).1,
        (scan (Layout.generate ∅ { licenseHeader := "" }).value).2)) ∧
      ∃ depth, openers "*/*".toList = depth + 1 ∧
        scan (licenseBanner "*/*") =
          ([], .blockComment depth (some '\n') (licenseBanner "*/*").toList) := by
  have noOpener : ¬ ['/', '*'] <:+: "Free */\r\n\n*/ for all ".toList := by decide +kernel
  have opener : ['/', '*'] <:+: "*/*".toList := by decide +kernel
  have banner : licenseBanner "Free */\r\n\n*/ for all " =
      "/*\n  Free * /\n\n  * / for all\n*/\n\n" := by
    decide +kernel
  obtain ⟨split, -, -, closed, -⟩ :=
    license_banner_closed_iff ∅ { licenseHeader := "Free */\r\n\n*/ for all " }
  obtain ⟨-, -, -, -, isOpen⟩ := license_banner_closed_iff ∅ { licenseHeader := "*/*" }
  refine ⟨?_, isOpen opener⟩
  rw [split, closed noOpener, banner]

end BlockStates.Lexical
