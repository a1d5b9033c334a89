import ListingCrawl.Job.Error
import ListingCrawl.Proofs.Text.Trim

/-! Every error of a job says something: its message is not blank, whatever names, texts and causes it is
made of. So there is always something to write into the record of a failed job. -/

namespace ListingCrawl

open Text

theorem Artifact.PointerError.isBlankText_message (e : Artifact.PointerError) :
    isBlankText e.message = false := by
  cases e with
  | noObject refusal =>
    unfold message
    exact isBlankText_append_left (by decide) _
  | badShape mismatch =>
    unfold message
    exact isBlankText_append_left (by decide) _
  | _ => decide

theorem isBlankText_failedText {what : String} (h : isBlankText what = false) (detail : Option String) :
    isBlankText (failedText what detail) = false := by
  unfold failedText
  exact isBlankText_append_left (isBlankText_append_left h _) _

theorem ExtractionError.isBlankText_message (e : ExtractionError) : isBlankText e.message = false := by
  cases e with
  | unrepaired tool first issue =>
    unfold message
    have hhead := isBlankText_append_left (s := "no contract object in ") (by decide) tool
    have hplace := isBlankText_append_left hhead " output: "
    have hfirst := isBlankText_append_left hplace first.message
    exact isBlankText_append_left (isBlankText_append_left hfirst _) _
  | pointer error => exact error.isBlankText_message
  | snapshotStatus found =>
    unfold message
    exact isBlankText_append_left (by decide) _
  | noPageState => decide
  | failedSnapshot detail => exact isBlankText_failedText (by decide) detail

/-- No error is without a message. -/
theorem CrawlError.isBlankText_message (e : CrawlError) : isBlankText e.message = false := by
  cases e with
  | input cause =>
    unfold message
    exact isBlankText_append_left (by decide) _
  | execution tool cause =>
    unfold message
    exact isBlankText_append_left (isBlankText_append_right (by decide) tool) _
  | extraction cause => exact cause.isBlankText_message
  | artifact path cause =>
    unfold message
    have hpath := isBlankText_append_left (s := "artifact ") (by decide) path.text
    exact isBlankText_append_left (isBlankText_append_left hpath _) _
  | contract violations first =>
    unfold message
    have hsummary := isBlankText_append_left (s := "output contract validation failed: ") (by decide)
      (Violation.summary violations)
    exact isBlankText_append_left hsummary _

end ListingCrawl
