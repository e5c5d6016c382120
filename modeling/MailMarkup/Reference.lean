namespace MailMarkup

def version : String := "0.1.0"

def referenceLines : List String :=
  ["# emlint Finding Reference",
   "",
   "Every finding carries `lineNumber`, `lineContent`, `errorTag` (the exact",
   "substring to highlight within the line), `message` and `code`.",
   "Lines whose trimmed text starts with `<!--` or `<!DOCTYPE` are not scanned.",
   "",
   "## Structural",
   "",
   "- `UNEXPECTED_CLOSING_TAG`: A closing tag appeared while no tag was open.",
   "  Fix: Remove the stray closing tag or add the missing opener.",
   "- `UNCLOSED_BEFORE_CLOSE`: An inner tag was still open when an enclosing",
   "  tag was closed (e.g. `<table><tr><td>Cell</table>`). Reported innermost",
   "  first, at the line where the inner tag was opened.",
   "  Fix: Close the inner tag before closing its parent.",
   "- `MISMATCHED_CLOSING_TAG`: A closing tag matches no open tag at all.",
   "  Fix: Check the tag name for typos; the open tags are left as they were.",
   "- `UNCLOSED_TAG`: A tag was still open at the end of the document.",
   "  Fix: Add the closing tag.",
   "",
   "Void elements (`area`, `base`, `br`, `col`, `embed`, `hr`, `img`, `input`,",
   "`link`, `meta`, `param`, `source`, `track`, `wbr`) and tags ending in `/>`",
   "never need a closing tag.",
   "",
   "## Attributes and inline styles",
   "",
   "- `MISSING_CLOSING_QUOTE`: The attributes contain an odd number of `\"` or `'`.",
   "  Fix: Close the quoted attribute value.",
   "- `STYLE_MISSING_SEMICOLON`: A style declaration contains more than one `:`.",
   "  Fix: Separate declarations with `;`.",
   "- `UPPERCASE_PROPERTY`: A CSS property name is not lowercase.",
   "  Fix: Write `font-size`, not `Font-Size`.",
   "- `UPPERCASE_UNIT`: A length unit is not lowercase (`10PX`).",
   "  Fix: Use `px`, `em`, `rem`, `vh`, `vw`, `pt`, `cm`, `mm`, `in`, `pc`.",
   "- `MISSING_HASH`: A hex color in a `*color*` style property or in a",
   "  `bgcolor`, `color`, `text`, `link`, `vlink` or `alink` attribute has no `#`.",
   "  Fix: Write `#ffffff`, not `ffffff`.",
   "- `MISSING_PROTOCOL`: An `<a href>` does not start with `http://`,",
   "  `https://`, `mailto:`, `tel:`, `#`, or a `[...]` / `\x7b...\x7d` merge tag.",
   "  Fix: Use an absolute URL; relative links break in most email clients."]

def reference : String := String.join (referenceLines.map (· ++ "\n"))

def repairGuideLines : List String :=
  ["# Fixing emlint Findings",
   "",
   "1. Run `validate_html(html)` on the full document.",
   "2. Fix structural findings first, starting from the top of the report:",
   "   an `UNCLOSED_BEFORE_CLOSE` on an inner `<td>` or `<tr>` usually explains",
   "   every later finding in the same table.",
   "3. Re-run `validate_html` after each structural fix; line numbers shift as",
   "   tags are added.",
   "4. Then fix attribute findings (`MISSING_HASH`, `UPPERCASE_UNIT`, ...);",
   "   they never affect each other.",
   "5. Keep table-based layout intact; email clients ignore most modern CSS.",
   "",
   "Call `get_lint_reference()` for the meaning of each code."]

def repairGuide : String := String.join (repairGuideLines.map (· ++ "\n"))

end MailMarkup
