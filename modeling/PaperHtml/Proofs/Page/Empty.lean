import Mathlib
import PaperHtml.Proofs.Html.Building
import PaperHtml.Proofs.Page.Fragments
import PaperHtml.Proofs.Page.Layout

/-!
# The empty page

An empty page has the frame of a page around its title, the style sheet and the
line of the side panel.

## Strategy

The source of an empty page is fixed but for the title.  What stands before the
title is read tag by tag, whatever follows it.  The title and the body are
markup, so they are read as their trees; all tokens behind the title are known.
-/

namespace PaperHtml

open Text Html Html.Node Html.Markup Page

namespace Layout

/-! ## What is on an empty page -/

def metaTag : Tag := ⟨"meta".toList, [("charset".toList, "utf-8".toList)]⟩
def titleTag : Tag := ⟨"title".toList, []⟩
def styleTag : Tag := ⟨"style".toList, []⟩

/-- The element with the title of a page. -/
def titleNode (title : Text) : Node :=
  .element titleTag (textNodes (["title", "head", "html"].map String.toList) title)

/-- The element with the style sheet of every page. -/
def styleNode : Node := .element styleTag [.text .embedded ('\n' :: Page.styleSheet)]

/-- The children of the head of an empty page. -/
def emptyHead (title : Text) : List Node :=
  [newline, .element metaTag [], newline, titleNode title, newline, styleNode, newline]

/-- The layout of an empty page. -/
def empty (title : Text) : Layout := ⟨emptyHead title, [], [], emptyPanelNodes, []⟩

/-! ## The source of an empty page -/

private def titleMarkup (title : Text) : Markup := .element "title".toList [] [.text title]

/-- The body of an empty page as markup. -/
private def bodyMarkup : Markup :=
  let part (name : String) (id : Text) (children : List Markup) : Markup :=
    .element name.toList [("id".toList, some id)] children
  .element "body".toList []
    [.text ['\n'],
      .element "main".toList []
        [.text ['\n'], part "p" statusId [], .text ['\n'], part "div" contentId [],
          .text ['\n']],
      .text ['\n'],
      part "aside" panelId
        [.element "p".toList [("class".toList, some "detail-empty".toList)]
          [.text "Click a citation to see its details.".toList]],
      .text ['\n']]

/-- What stands behind the title. -/
private def sourceBehind : Text :=
  "\n<style>\n".toList ++ Page.styleSheet ++
    block ["</style>", "</head>", "<body>", "<main>", "<p id=\"paper-status\"></p>",
      "<div id=\"paper-content\"></div>", "</main>"] ++
    "<aside id=\"citation-detail\">".toList ++ Page.emptyPanel ++
    block ["</aside>", "</body>", "</html>"]

private theorem frame_eq (title : Text) :
    Page.frame title =
      block ["<!DOCTYPE html>", "<html lang=\"en\">", "<head>", "<meta charset=\"utf-8\">"] ++
        (source (titleMarkup title) ++ sourceBehind) := by
  have hopen : "<title>".toList = startSource "title".toList [] := by decide
  have hclose : "</title>\n<style>\n".toList =
      endSource "title".toList ++ "\n<style>\n".toList := by decide
  delta Page.frame sourceBehind
  rw [hopen, hclose]
  simp only [titleMarkup, source, sources, List.append_assoc, List.append_nil, -String.reduceToList]

/-! ## Reading the head -/

/-- The state of building inside the frame, with a text and with elements still open. -/
private def within (pending : Text) (opened : List Opened) : Builder :=
  ⟨pending, opened, [newline, .text .doctype "html".toList], ["meta".toList], none⟩

private theorem isVoid_of_mem {pending : Text} {opened : List Opened} :
    ∀ name ∈ (within pending opened).closedVoids, isVoid name = true := by
  intro name hname
  rw [List.mem_singleton.mp hname]
  decide

private theorem read_before (t : Text) :
    Builder.read (block ["<!DOCTYPE html>", "<html lang=\"en\">", "<head>",
      "<meta charset=\"utf-8\">"] ++ t) {} =
      (within ['\n'] [⟨headTag, [.element metaTag [], newline]⟩, ⟨htmlTag, [newline]⟩]).read t := by
  have hnames : isTagName "html".toList = true ∧ isTagName "head".toList = true ∧
      isTagName "meta".toList = true := by decide
  have hsource : block ["<!DOCTYPE html>", "<html lang=\"en\">", "<head>",
      "<meta charset=\"utf-8\">"] = "<!DOCTYPE html>".toList ++
        '\n' :: (startSource "html".toList [("lang".toList, some "en".toList)] ++
        '\n' :: (startSource "head".toList [] ++
        '\n' :: (startSource "meta".toList [("charset".toList, some "utf-8".toList)] ++
        ['\n']))) := by
    decide
  have hdoctype (rest : Text) (b : Builder) : b.read ("<!DOCTYPE html>".toList ++ rest) =
      (b.take (.markup .doctype "html".toList)).read rest := by
    have hstep : step false ("<!DOCTYPE html>".toList ++ rest) =
        .go [.markup .doctype "html".toList] rest := rfl
    exact @Builder.read_of_go '<' _ "!DOCTYPE html>".toList rest _ rfl hstep b
  obtain ⟨hhtml, hhead, hmeta⟩ := hnames
  rw [hsource]
  simp only [List.append_assoc, List.cons_append, List.nil_append]
  rw [hdoctype, Builder.read_running rfl, read_startSource hhtml rfl, Builder.read_running rfl,
    read_startSource hhead rfl, Builder.read_running rfl, read_startSource hmeta rfl,
    Builder.read_running rfl]
  rfl

private theorem read_title (title t : Text) (children : List Node) :
    (within ['\n'] [⟨headTag, children⟩, ⟨htmlTag, [newline]⟩]).read
        (source (titleMarkup title) ++ t) =
      (within [] [⟨headTag, titleNode title :: newline :: children⟩, ⟨htmlTag, [newline]⟩]).read
        t := by
  have hplain : isPlain (titleMarkup title) = true := by
    have hname : isElementName "title".toList = true := by decide
    rw [titleMarkup, isPlain, hname]
    rfl
  have htokens := Builder.foldl_tokens_of_isPlain hplain
    (@isVoid_of_mem ['\n'] [⟨headTag, children⟩, ⟨htmlTag, [newline]⟩])
  rw [read_source _ hplain, titleMarkup, htokens]
  rfl

/-! ## Reading behind the title -/

/-- The tokens of the rest of the head. -/
private def headTokens : List Token :=
  [.text ['\n'], .startTag ⟨"style".toList, [], false⟩, .text ('\n' :: Page.styleSheet),
    .endTag "style".toList, .text ['\n'], .endTag "head".toList, .text ['\n']]

/-- The tokens of the end of the page. -/
private def lastTokens : List Token := [.text ['\n'], .endTag "html".toList, .text ['\n']]

private theorem tokens_behind :
    Html.tokens sourceBehind = headTokens ++ (Markup.tokens bodyMarkup ++ lastTokens) := by
  -- The kernel is slow to take long literals apart, so this is done before.
  delta sourceBehind headTokens bodyMarkup lastTokens styleSheet Page.emptyPanel block
  simp only [List.flatMap_cons, List.flatMap_nil, -String.reduceToList]
  repeat rw [String.toList_ofList]
  decide +kernel

private theorem foldl_head (children : List Node) :
    headTokens.foldl Builder.take (within [] [⟨headTag, children⟩, ⟨htmlTag, [newline]⟩]) =
      within ['\n'] [⟨htmlTag,
        [.element headTag (newline :: styleNode :: newline :: children).reverse, newline]⟩] := by
  rfl

private theorem foldl_body (head : Node) :
    (Markup.tokens bodyMarkup).foldl Builder.take (within ['\n'] [⟨htmlTag, [head, newline]⟩]) =
      within []
        [⟨htmlTag, [.element bodyTag (empty []).main, newline, head, newline]⟩] := by
  have hplain : isPlain bodyMarkup = true := by decide
  have hbuilt : built ["html".toList] [] [bodyMarkup] = [.element bodyTag (empty []).main] := by
    decide
  have htokens := Builder.foldl_tokens_of_isPlain hplain
    (@isVoid_of_mem ['\n'] [⟨htmlTag, [head, newline]⟩])
  have haround : (within ['\n'] [⟨htmlTag, [head, newline]⟩]).around = ["html".toList] := rfl
  rw [bodyMarkup, built_element] at hbuilt
  rw [bodyMarkup, htokens, haround, (List.cons.inj hbuilt).1]
  rfl

private theorem finish_last (head body : Node) :
    (lastTokens.foldl Builder.take (within [] [⟨htmlTag, [body, newline, head, newline]⟩])).finish =
      [.text .doctype "html".toList, newline,
        .element htmlTag [newline, head, newline, body, newline], newline] := by
  rfl

/-- The frame of a page is read as its layout. -/
theorem parse_frame (title : Text) : parse (frame title) = .ok (empty title).nodes := by
  have hread : Builder.read (frame title) {} = lastTokens.foldl Builder.take
      (within [] [⟨htmlTag, [.element bodyTag (empty []).main, newline,
        .element headTag (emptyHead title), newline]⟩]) := by
    rw [frame_eq, read_before, read_title, Builder.read, tokens_behind, List.foldl_append,
      List.foldl_append, foldl_head, foldl_body]
    rfl
  have haccepted : (Builder.read (frame title) {}).rejected = none := by
    rw [hread]
    rfl
  rw [parse_eq_finish haccepted, hread, finish_last]
  rfl

/-- An empty page has the layout of one. -/
theorem page_empty (title : Text) : Page.empty title = (empty title).page := by
  rw [Page.empty, parsed_of_parse (parse_frame title), page]

end Layout

namespace Page

/-! ## Identifiers on an empty page -/

theorem tagsAmong_emptyHead (title : Text) :
    Node.tagsAmong (Layout.emptyHead title) =
      [Layout.metaTag, Layout.titleTag, Layout.styleTag] := by
  simp only [Layout.emptyHead, Layout.titleNode, Layout.styleNode, newline, Node.tagsAmong_text,
    Node.tagsAmong_element, Node.tagsAmong_nil, Markup.tagsAmong_textNodes]
  rfl

theorem without_isOwn_empty (title : Text) : Without isOwn (Layout.empty title).outer := by
  have htags : Node.tagsAmong (Layout.empty title).outer =
      [Layout.metaTag, Layout.titleTag, Layout.styleTag, bodyTag] := by
    rw [Layout.outer, Layout.empty, Node.tagsAmong_append, tagsAmong_emptyHead]
    rfl
  have hcharset : "charset".toList ≠ "id".toList := by decide
  have hmeta : isOwn Layout.metaTag = false := by
    apply isOwn_of_attribute?_eq_none
    rw [Layout.metaTag, Tag.attribute?, Assoc.get?, if_neg hcharset]
    rfl
  rw [Without, htags, List.any_cons, hmeta]
  rfl

theorem sound_empty (title : Text) : (Layout.empty title).Sound := by
  have hnone : ∀ id ∈ ownIds, Without (Tag.hasId id) (Layout.empty title).outer :=
    fun _ hid => (without_isOwn_empty title).mono fun _ => isOwn_of_hasId hid
  refine ⟨⟨(without_isOwn_empty title).mono ?_, rfl⟩, rfl, ?_, ?_, ?_⟩
  · intro tag htag
    rw [isOwn_eq, htag, Bool.true_or]
  · exact without_emptyPanelNodes
  · rw [(hnone dataId (by simp [ownIds])).countP_eq_zero]
    exact Nat.zero_le 1
  · rw [(hnone scriptId (by simp [ownIds])).countP_eq_zero]
    exact Nat.zero_le 1

end Page

end PaperHtml
