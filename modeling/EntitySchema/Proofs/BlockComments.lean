import EntitySchema.Proofs.Lists
import EntitySchema.Proofs.SeparateLines

/-!
# Block comments

The comment of a documentation is shown in a block comment, one line below the other.  Nothing is
done to the lines, so a line that holds the end of a block comment ends the comment there.  It is
one block comment exactly when no line without a tag does so.
-/

namespace EntitySchema
namespace Documentation

/-! ## Ends of comments -/

/-- The characters that end a block comment. -/
def commentEnd : List Char := "*/".toList

/-- A text is a single block comment: it starts like one, and its only end of a comment is at its
own end. -/
structure IsBlockComment (text : List Char) : Prop where
  starts : "/**".toList <+: text
  ends : commentEnd <:+ text
  once : ∀ before after, text = before ++ commentEnd ++ after → after = []

/-- An end of a comment stands on one line. -/
theorem commentEnd_isInfix_intercalate_iff (lines : List (List Char)) :
    commentEnd <:+: List.intercalate ['\n'] lines ↔ ∃ line ∈ lines, commentEnd <:+: line := by
  induction lines with
  | nil => decide
  | cons line rest inductionHypothesis =>
      cases rest with
      | nil => simp
      | cons next later =>
          rw [List.intercalate_cons_cons, List.append_assoc, List.singleton_append,
            List.isInfix_append_cons_iff (by decide) (by decide), inductionHypothesis]
          exact (List.exists_mem_cons_iff _ _ _).symm

/-! ## Lines of a comment -/

theorem commentEnd_isInfix_trimEnd_iff (line : List Char) :
    commentEnd <:+: Text.trimEnd line ↔ commentEnd <:+: line := by
  constructor
  · intro trimmed
    exact trimmed.trans (List.rdropWhile_prefix _ _).isInfix
  · rintro ⟨before, after, rfl⟩
    have kept : Text.trimEnd (before ++ ['*'] ++ ['/'] ++ after) = _ :=
      Text.trimEnd_concat_append (by decide) (before ++ ['*']) after
    have whole : before ++ commentEnd ++ after = before ++ ['*'] ++ ['/'] ++ after := by
      simp [commentEnd]
    rw [whole, kept]
    exact ⟨before, Text.trimEnd after, by simp [commentEnd]⟩

theorem commentEnd_isInfix_blockLine_iff (line : String) :
    commentEnd <:+: (blockLine line).toList ↔ commentEnd <:+: line.toList := by
  rw [blockLine]
  split_ifs with empty
  · rw [String.isEmpty_iff.mp empty]
    decide
  · have framed : (" * " ++ line).toList = [' ', '*'] ++ ' ' :: line.toList := by simp
    have lead : ¬ commentEnd <:+: [' ', '*'] := by decide
    rw [framed, List.isInfix_append_cons_iff (by decide) (by decide)]
    exact or_iff_right lead

theorem mem_comment_ofLines_iff
    {lines : List (List Char)}
    {comment : String} :
    comment ∈ (ofLines lines).comment ↔
      ∃ line ∈ lines, ¬ IsTagged line ∧ comment = String.ofList (Text.trimEnd line) := by
  induction lines with
  | nil => simp [ofLines]
  | cons line rest inductionHypothesis =>
      have own : comment ∈ (ofLine line).comment ↔
          ¬ IsTagged line ∧ comment = String.ofList (Text.trimEnd line) := by
        rw [ofLine]
        cases found : chain? (Text.trimStart line) with
        | none => simp [chain?_eq_none_iff.mp found]
        | some chain =>
            have tagged : IsTagged line := by
              by_contra untagged
              rw [chain?_of_untagged untagged] at found
              cases found
            simp [tagged]
      change comment ∈ (ofLine line).comment ++ (ofLines rest).comment ↔ _
      rw [List.mem_append, own, inductionHypothesis, List.exists_mem_cons_iff]

/-! ## The block -/

/-- The text of the block that shows a comment. -/
def commentText (documentation : Documentation) : List Char :=
  (String.intercalate "\n" documentation.commentBlock).toList

section

variable
  {documentation : Documentation}

/-- The first line of the block and the lines of the comment. -/
def openComment (documentation : Documentation) : List Char :=
  List.intercalate ['\n']
    ("/**".toList :: documentation.comment.map fun line => (blockLine line).toList)

/-- A comment is shown between an opening line and a closing one. -/
theorem commentText_of_comment
    (present : documentation.comment ≠ []) :
    documentation.commentText = documentation.openComment ++ '\n' :: ' ' :: commentEnd := by
  have closing : [" */"].map String.toList = [' ' :: commentEnd] := by decide
  rw [commentText, commentBlock, if_neg (by simpa using present), String.toList_intercalate,
    List.map_append, closing, List.intercalate_concat _ _ (by simp), List.map_cons, List.map_map,
    List.append_assoc]
  rfl

theorem commentText_eq_nil_iff : documentation.commentText = [] ↔ documentation.comment = [] := by
  constructor
  · intro nothing
    by_contra present
    rw [commentText_of_comment present] at nothing
    simp at nothing
  · intro empty
    rw [commentText, commentBlock, empty]
    rfl

theorem commentEnd_isInfix_openComment_iff :
    commentEnd <:+: documentation.openComment ↔
      ∃ line ∈ documentation.comment, commentEnd <:+: line.toList := by
  have opening : ¬ commentEnd <:+: "/**".toList := by decide
  rw [openComment, commentEnd_isInfix_intercalate_iff, List.exists_mem_cons_iff,
    or_iff_right opening]
  simp only [List.mem_map, exists_exists_and_eq_and, commentEnd_isInfix_blockLine_iff]

theorem openComment_starts : "/**".toList <+: documentation.openComment := by
  rw [openComment]
  cases documentation.comment with
  | nil => exact List.prefix_rfl
  | cons line rest =>
      rw [List.map_cons, List.intercalate_cons_cons, List.append_assoc]
      exact List.prefix_append _ _

/-- A shown comment starts and ends like a block comment. -/
theorem commentText_framed
    (present : documentation.comment ≠ []) :
    "/**".toList <+: documentation.commentText ∧ commentEnd <:+ documentation.commentText := by
  rw [commentText_of_comment present]
  refine ⟨openComment_starts.trans (List.prefix_append _ _), ?_⟩
  exact ⟨documentation.openComment ++ ['\n', ' '], by simp⟩

/-- A shown comment is a single block comment exactly when none of its lines ends it. -/
theorem isBlockComment_commentText_iff
    (present : documentation.comment ≠ []) :
    IsBlockComment documentation.commentText ↔
      ∀ line ∈ documentation.comment, ¬ commentEnd <:+: line.toList := by
  have framed : documentation.commentText =
      documentation.openComment ++ '\n' :: [' ', '*'] ++ ['/'] := by
    rw [commentText_of_comment present]
    simp [commentEnd]
  have closing : ¬ commentEnd <:+: [' ', '*'] := by decide
  have once :
      (∀ before after, documentation.commentText = before ++ commentEnd ++ after → after = []) ↔
        ∀ line ∈ documentation.comment, ¬ commentEnd <:+: line.toList := by
    rw [framed, List.forall_occurrence_last_iff,
      List.isInfix_append_cons_iff (by decide) (by decide), or_iff_left closing,
      commentEnd_isInfix_openComment_iff]
    simp only [not_exists, not_and]
  obtain ⟨starts, ends⟩ := commentText_framed present
  exact ⟨fun single => once.mp single.once, fun clean => ⟨starts, ends, once.mpr clean⟩⟩

end

/-! ## Lines that are shown -/

theorem ofText?_eq_ofLines (documentation : Option String) :
    ofText? documentation = ofLines (Text.lines (documentation.getD "").toList) := by
  cases documentation <;> rfl

theorem mem_comment_ofText?_iff
    {documentation : Option String}
    {comment : String} :
    comment ∈ (ofText? documentation).comment ↔
      ∃ line ∈ Text.lines (documentation.getD "").toList,
        ¬ IsTagged line ∧ comment = String.ofList (Text.trimEnd line) := by
  rw [ofText?_eq_ofLines, mem_comment_ofLines_iff]

/-- No comment is shown exactly when all lines are tagged. -/
theorem comment_ofText?_eq_nil_iff (documentation : Option String) :
    (ofText? documentation).comment = [] ↔
      ∀ line ∈ Text.lines (documentation.getD "").toList, IsTagged line := by
  rw [List.eq_nil_iff_forall_not_mem]
  simp only [mem_comment_ofText?_iff, not_exists, not_and]
  constructor
  · intro nothing line member
    by_contra untagged
    exact nothing _ line member untagged rfl
  · intro tagged comment line member untagged
    exact absurd (tagged line member) untagged

/-- Trimming takes no end of a comment from a line. -/
theorem forall_comment_ofText?_iff (documentation : Option String) :
    (∀ comment ∈ (ofText? documentation).comment, ¬ commentEnd <:+: comment.toList) ↔
      ∀ line ∈ Text.lines (documentation.getD "").toList,
        ¬ IsTagged line → ¬ commentEnd <:+: line := by
  simp only [mem_comment_ofText?_iff]
  constructor
  · intro clean line member untagged
    have trimmed := clean _ ⟨line, member, untagged, rfl⟩
    rwa [String.toList_ofList, commentEnd_isInfix_trimEnd_iff] at trimmed
  · rintro clean comment ⟨line, member, untagged, rfl⟩
    rw [String.toList_ofList, commentEnd_isInfix_trimEnd_iff]
    exact clean line member untagged

/-- The block that shows the comment of a documentation is empty exactly when all lines are tagged,
and otherwise it starts and ends like a block comment.  It is empty or a single block comment, with
its only end of a comment at its own end, exactly when no line without a tag holds the end of a
comment. -/
theorem comment_closed_once_iff (documentation : Option String) :
    ((ofText? documentation).commentText = [] ↔
      ∀ line ∈ Text.lines (documentation.getD "").toList, IsTagged line) ∧
    ((ofText? documentation).commentText ≠ [] →
      "/**".toList <+: (ofText? documentation).commentText ∧
        commentEnd <:+ (ofText? documentation).commentText) ∧
    ((ofText? documentation).commentText = [] ∨
        IsBlockComment (ofText? documentation).commentText ↔
      ∀ line ∈ Text.lines (documentation.getD "").toList,
        ¬ IsTagged line → ¬ commentEnd <:+: line) := by
  have empty : (ofText? documentation).commentText = [] ↔ (ofText? documentation).comment = [] :=
    commentText_eq_nil_iff
  have clean := forall_comment_ofText?_iff documentation
  refine ⟨empty.trans (comment_ofText?_eq_nil_iff documentation), fun shown => ?_, ?_⟩
  · exact commentText_framed (mt empty.mpr shown)
  · rw [empty, ← clean]
    by_cases present : (ofText? documentation).comment = []
    · exact iff_of_true (.inl present) (by simp [present])
    · rw [or_iff_right present, isBlockComment_commentText_iff present]

/-- A line that holds the end of a block comment leaves the rest of the documentation outside. -/
theorem comment_closed_early :
    ¬ ((ofText? (some "Rate */ hour\nShown to all")).commentText = [] ∨
        IsBlockComment (ofText? (some "Rate */ hour\nShown to all")).commentText) := by
  rintro (empty | single)
  · revert empty
    decide
  · have ended :=
      single.once "/**\n * Rate ".toList " hour\n * Shown to all\n */".toList (by decide)
    revert ended
    decide

end Documentation
end EntitySchema
