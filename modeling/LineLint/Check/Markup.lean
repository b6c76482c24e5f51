import LineLint.Scan

/-! A tag that goes on in the next line is judged by its first line. -/

namespace LineLint

open Pattern

namespace Html

def inlineScript : Rule where
  severity := .warning
  category := "HTML"
  message := "Inline script"
  description := "Inline scripts can be XSS vectors. Use external scripts."
  suggestion := "Move JavaScript to external files."
  pattern := litAnyCase "<script" ++ blanks ++ upTo ['>'] ++ lit ">"
  veto := some (lit "src=")
  anchors := ["<script"]

def formTag : Pattern := litAnyCase "<form" ++ upTo ['>'] ++ lit ">"

def formWithoutMethod : Rule where
  severity := .warning
  category := "HTML"
  message := "Form without method attribute"
  description := "Default method is GET, which exposes data in URL."
  suggestion := "Use method=\"POST\" for sensitive data."
  pattern := formTag
  veto := some (litAnyCase "method=")
  anchors := ["<form"]

def formWithoutAction : Rule where
  severity := .info
  category := "HTML"
  message := "Form without action"
  description := "Form submits to current URL. Consider adding explicit action."
  suggestion := "Add action attribute or use JavaScript to handle submission."
  pattern := formTag
  veto := some (litAnyCase "action=")
  anchors := ["<form"]

def sensitiveAutocomplete : Rule where
  severity := .warning
  category := "HTML"
  message := "Missing autocomplete on sensitive fields"
  description := "Browsers may cache sensitive data."
  suggestion := "Set autocomplete=\"off\" for sensitive fields."
  pattern :=
    litAnyCase "<input" ++ upTo ['>'] ++ anyOfAnyCase ["password", "credit", "card", "cvv"]
  veto := some (litAnyCase "autocomplete")
  anchors := ["<input"]

def blankTarget : Rule where
  severity := .warning
  category := "HTML"
  message := "Missing rel=\"noopener\" on target=\"_blank\""
  description := "New page can access window.opener (phishing risk)."
  suggestion := "Add rel=\"noopener noreferrer\" to links with target=\"_blank\"."
  pattern :=
    litAnyCase "<a" ++ upTo ['>'] ++ litAnyCase "target" ++ gap ++ lit "=" ++ gap ++ quote ++
      litAnyCase "_blank" ++ quote
  veto := some (litAnyCase "rel" ++ gap ++ lit "=" ++ gap ++ quote)
  anchors := ["target"]

def imageWithoutAlt : Rule where
  severity := .info
  category := "HTML"
  message := "Missing alt attribute on image"
  description := "Images should have alt text for accessibility."
  suggestion := "Add alt=\"description\" to the img tag."
  pattern := litAnyCase "<img" ++ upTo ['>'] ++ lit ">"
  veto := some (litAnyCase "alt" ++ gap ++ lit "=")
  anchors := ["<img"]

def rules : List Rule :=
  [inlineScript, formWithoutMethod, formWithoutAction, sensitiveAutocomplete, blankTarget,
    imageWithoutAlt]

end Html

namespace Css

def importantOverride : Rule where
  severity := .warning
  category := "CSS"
  message := "!important usage"
  description := "Overusing !important makes CSS hard to maintain."
  suggestion := "Use more specific selectors instead."
  pattern := one .blank ++ lit "!important"
  anchors := ["!important"]

def hexDigit : Pattern := one (.oneOf "0123456789abcdefABCDEF".toList)

/-- Custom properties and references to them are exempt. -/
def hardcodedColor : Rule where
  severity := .info
  category := "CSS"
  message := "Hardcoded color value"
  description := "Consider using CSS custom properties for colors."
  suggestion := "Use CSS variables: color: var(--primary-color)"
  pattern :=
    (lit "#" ++ hexDigit ++ hexDigit ++ hexDigit ++ hexDigit ++ hexDigit ++ hexDigit ++
      wordEdge) |||
    spaced ["rgb", "("]
  veto := some (anyOf ["var(", "--"])
  anchors := ["#", "rgb"]

def pixelFontSize : Rule where
  severity := .info
  category := "CSS"
  message := "Pixel font-size"
  description := "Use relative units (rem, em) for better accessibility."
  suggestion := "Use rem or em units for scalable typography."
  pattern := lit "font-size:" ++ gap ++ atLeastOne .digit ++ lit "px"
  anchors := ["font-size"]

def vendorMark : Rule where
  severity := .info
  category := "CSS"
  message := "Vendor prefix"
  description := "Vendor prefixes may not be needed for modern properties."
  suggestion := "Check if the unprefixed version is now supported."
  pattern := anyOf ["-webkit-", "-moz-", "-ms-", "-o-"]
  anchors := ["-webkit", "-moz"]

def rules : List Rule := [importantOverride, hardcodedColor, pixelFontSize, vendorMark]

end Css

end LineLint
