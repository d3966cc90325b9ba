import PaperHtml.Html.Escape

/-!
# The fixed parts of a page

The frame that a paper is put into, the style sheets, and the script that shows
the details of a citation when it is clicked in a browser.
-/

namespace PaperHtml.Page

open Text

/-- Lines put together, each ended by a line feed. -/
def block (ls : List String) : Text := ls.flatMap fun line => line.toList ++ ['\n']

/-- What the side panel shows before a citation is clicked. -/
def emptyPanel : Text :=
  "<p class=\"detail-empty\">Click a citation to see its details.</p>".toList

/-- The style sheet of every page. -/
def styleSheet : Text :=
  block [
    "body \x7b font-family: Georgia, serif; margin: 0; display: flex; \x7d",
    "main \x7b flex: 1; max-width: 52rem; padding: 2rem; line-height: 1.5; \x7d",
    "aside \x7b width: 20rem; padding: 2rem 1rem; border-left: 1px solid #ddd; font-size: 0.9rem; \x7d",
    "#paper-status \x7b color: #666; font-size: 0.85rem; \x7d",
    ".references ol \x7b list-style: none; padding-left: 0; \x7d",
    ".references li \x7b margin-bottom: 0.5rem; \x7d",
    ".error \x7b color: #a00; \x7d"]

/-- The frame of a page with a title. -/
def frame (title : Text) : Text :=
  block ["<!DOCTYPE html>", "<html lang=\"en\">", "<head>", "<meta charset=\"utf-8\">"] ++
    "<title>".toList ++ Html.escape title ++ "</title>\n<style>\n".toList ++ styleSheet ++
    block ["</style>", "</head>", "<body>", "<main>", "<p id=\"paper-status\"></p>",
      "<div id=\"paper-content\"></div>", "</main>"] ++
    "<aside id=\"citation-detail\">".toList ++ emptyPanel ++
    block ["</aside>", "</body>", "</html>"]

/-- The style sheet for papers that the LaTeX engine has set. -/
def latexStyleSheet : Text :=
  unlines (List.map String.toList [
    "<style id=\"latex-path-assets\">",
    "#paper-content .math.display \x7b display: block; text-align: center; margin: 1em 0; \x7d",
    "#paper-content blockquote \x7b font-style: italic; color: #444; \x7d",
    "#paper-content pre \x7b background: #f6f6f6; padding: 0.75em; overflow-x: auto; \x7d",
    "</style>"])

/-- The script that shows the details of a clicked citation. -/
def panelScript : Text :=
  '\n' :: block [
    "document.addEventListener('click', function (event) \x7b",
    "  var anchor = event.target.closest('a.citation');",
    "  if (!anchor) return;",
    "  event.preventDefault();",
    "  var key = anchor.getAttribute('data-cite-key');",
    "  var panel = document.getElementById('citation-detail');",
    "  var tpl = null;",
    "  document.querySelectorAll('template[data-cite-detail]').forEach(function (t) \x7b",
    "    if (t.getAttribute('data-cite-detail') === key) tpl = t;",
    "  \x7d);",
    "  panel.innerHTML = tpl ? tpl.innerHTML : '<p class=\"detail-missing\">Reference not found: ' + key + '</p>';",
    "\x7d);"]

end PaperHtml.Page
