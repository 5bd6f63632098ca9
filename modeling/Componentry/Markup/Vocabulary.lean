import Componentry.Text.Ascii

/-!
# Known elements

The element names with a meaning of their own: the standard elements of a document, the void
elements, which have no content, and the raw elements, whose content is text without markup.
Names are compared without regard to ASCII case.
-/

namespace Componentry.Markup

def voidElements : List String :=
  ["area", "base", "br", "col", "embed", "hr", "img", "input", "link", "meta", "param", "source",
   "track", "wbr"]

/-- The elements whose content is text without markup. -/
def rawElements : List String := ["script", "style"]

def standardElements : List String :=
  ["a", "abbr", "acronym", "address", "area", "article", "aside", "audio", "b", "base", "basefont",
   "bdi", "bdo", "big", "blockquote", "body", "br", "button", "canvas", "caption", "center",
   "cite", "code", "col", "colgroup", "data", "datalist", "dd", "del", "details", "dfn", "dialog",
   "dir", "div", "dl", "dt", "em", "embed", "fieldset", "figcaption", "figure", "font", "footer",
   "form", "frame", "frameset", "h1", "h2", "h3", "h4", "h5", "h6", "head", "header", "hgroup",
   "hr", "html", "i", "iframe", "img", "input", "ins", "kbd", "label", "legend", "li", "link",
   "main", "map", "mark", "marquee", "menu", "meta", "meter", "nav", "noscript", "object", "ol",
   "optgroup", "option", "output", "p", "param", "picture", "pre", "progress", "q", "rp", "rt",
   "ruby", "s", "samp", "script", "search", "section", "select", "slot", "small", "source",
   "span", "strike", "strong", "style", "sub", "summary", "sup", "svg", "math", "table", "tbody",
   "td", "template", "textarea", "tfoot", "th", "thead", "time", "title", "tr", "track", "tt",
   "u", "ul", "var", "video", "wbr"]

def isAmong (names : List String) (tag : String) : Bool := names.contains (Text.lower tag)

def isVoid (tag : String) : Bool := isAmong voidElements tag

def isRaw (tag : String) : Bool := isAmong rawElements tag

def isStandard (tag : String) : Bool := isAmong standardElements tag

end Componentry.Markup
