import StyleTokens.Files.Request
import StyleTokens.Json.Parser
import StyleTokens.Preset.Source
import StyleTokens.Value.Basic

/-!
# Corpora

A corpus is a list of cases: the bundled one, or that of a JSON file with a list under `cases`. The
bundled cases are those that every implementation has to answer alike, by the operation that they
are about.
-/

namespace StyleTokens.Conformance

/-- A case. -/
def bundledCase (kind id : String) (input : List (String × Value)) (expected : Value) : Value :=
  .ofFields [("id", .str id), ("kind", .str kind), ("input", .ofFields input),
    ("expected", expected)]

/-- The double nearest to a decimal. -/
def decimal (negative : Bool) (coefficient : Nat) (exponent : Int) : Value :=
  .float (Decimal.toBinary64 negative ⟨coefficient, exponent⟩)

/-- A text of several lines. -/
def lines (parts : List String) : Value := .str ("\n".intercalate parts)

/-- The cases on token entries. -/
def entryCases : List Value := [
  bundledCase "normalize" "normalize-bare-string" [("raw", .str "4")] (.ofFields [("all",
    .str "4")]),
  bundledCase "normalize" "normalize-bare-zero" [("raw", .str "0")] (.ofFields [("all", .str "0")]),
  bundledCase "normalize" "normalize-null" [("raw", .null)] (.ofFields []),
  bundledCase "normalize" "normalize-false" [("raw", .bool false)] (.ofFields []),
  bundledCase "normalize" "normalize-true" [("raw", .bool true)] (.ofFields []),
  bundledCase "normalize" "normalize-empty-string" [("raw", .str "")] (.ofFields []),
  bundledCase "normalize" "normalize-empty-object" [("raw", .ofFields [])] (.ofFields []),
  bundledCase "normalize" "normalize-list" [("raw", .list [.str "2"])] (.ofFields []),
  bundledCase "normalize" "normalize-all" [("raw", .ofFields [("type", .str "all"), ("value",
    .str "2")])] (.ofFields [("all", .str "2")]),
  bundledCase "normalize" "normalize-all-empty-value" [("raw", .ofFields [("type", .str "all"),
    ("value", .str "")])] (.ofFields []),
  bundledCase "normalize" "normalize-all-number" [("raw", .ofFields [("type", .str "all"),
    ("value", .int 4)])] (.ofFields [("all", .str "4")]),
  bundledCase "normalize" "normalize-split-x-only" [("raw", .ofFields [("type", .str "split"),
    ("x", .str "2")])] (.ofFields [("x", .str "2")]),
  bundledCase "normalize" "normalize-split-both" [("raw", .ofFields [("type", .str "split"), ("y",
    .str "3"), ("x", .str "1")])] (.ofFields [("x", .str "1"), ("y", .str "3")]),
  bundledCase "normalize" "normalize-split-float" [("raw", .ofFields [("type", .str "split"), ("x",
    decimal false 5 (-1))])] (.ofFields [("x", .str "0.5")]),
  bundledCase "normalize" "normalize-sides-partial" [("raw", .ofFields [("type", .str "sides"),
    ("top", .str "2"), ("left", .str "1"), ("right", .str ""), ("bottom", .null)])] (.ofFields
    [("top", .str "2"), ("left", .str "1")]),
  bundledCase "normalize" "normalize-sides-false-value" [("raw", .ofFields [("type", .str "sides"),
    ("top", .bool false), ("bottom", .str "3")])] (.ofFields [("bottom", .str "3")]),
  bundledCase "normalize" "normalize-unknown-type" [("raw", .ofFields [("type", .str "bogus"),
    ("foo", .str "bar")])] (.ofFields []),
  bundledCase "normalize" "normalize-missing-type" [("raw", .ofFields [("value", .str "2")])]
    (.ofFields []),
  bundledCase "normalize" "normalize-wrong-field-type" [("raw", .ofFields [("type", .str "sides"),
    ("top", .list [.str "2"]), ("left", .str "1")])] (.ofFields []),
  bundledCase "normalize" "normalize-boolean-field" [("raw", .ofFields [("type", .str "all"),
    ("value", .bool true)])] (.ofFields [])]

/-- The cases on class names. -/
def classNameCases : List Value := [
  bundledCase "compile_class" "class-breakpoint-side" [("property_abbrev", .str "p"),
    ("breakpoint", .str "md"), ("side", .str "top"), ("value", .str "4")] (.str "md:pt-4"),
  bundledCase "compile_class" "class-base-all" [("property_abbrev", .str "gap"), ("breakpoint",
    .str "base"), ("side", .str "all"), ("value", .str "2")] (.str "gap-2"),
  bundledCase "compile_class" "class-axis-zero" [("property_abbrev", .str "m"), ("breakpoint",
    .str "base"), ("side", .str "x"), ("value", .str "0")] (.str "mx-0"),
  bundledCase "compile_class" "class-left" [("property_abbrev", .str "p"), ("breakpoint",
    .str "lg"), ("side", .str "left"), ("value", .str "1")] (.str "lg:pl-1"),
  bundledCase "compile_class" "class-y-auto" [("property_abbrev", .str "m"), ("breakpoint",
    .str "sm"), ("side", .str "y"), ("value", .str "auto")] (.str "sm:my-auto")]

/-- The cases on responsive values. -/
def responsiveCases : List Value := [
  bundledCase "compile_responsive" "responsive-padding-sides" [("category", .str "padding"),
    ("value_map", .ofFields [("base", .ofFields [("type", .str "sides"), ("top", .str "2"),
    ("left", .str "1")])])] (.str "pt-2 pl-1"),
  bundledCase "compile_responsive" "responsive-gap-marker" [("category", .str "gap"), ("value_map",
    .ofFields [("base", .str "2"), ("md", .str "4")])] (.str "has-gap gap-2 md:gap-4"),
  bundledCase "compile_responsive" "responsive-gap-split" [("category", .str "gap"), ("value_map",
    .ofFields [("base", .ofFields [("type", .str "split"), ("x", .str "2"), ("y", .str "4")])])]
    (.str "has-gap gapx-2 gapy-4"),
  bundledCase "compile_responsive" "responsive-gap-all-empty" [("category", .str "gap"),
    ("value_map", .ofFields [("base", .str ""), ("md", .ofFields [("type", .str "all"), ("value",
    .str "")])])] (.str ""),
  bundledCase "compile_responsive" "responsive-insertion-order" [("category", .str "margin"),
    ("value_map", .ofFields [("lg", .str "4"), ("base", .str "1")])] (.str "lg:m-4 m-1"),
  bundledCase "compile_responsive" "responsive-explicit-order" [("category", .str "margin"),
    ("value_map", .ofFields [("lg", .str "4"), ("base", .ofFields [("type", .str "split"), ("x",
    .str "auto")]), ("md", .str "2")]), ("breakpoint_order", .list [.str "base", .str "sm",
    .str "md", .str "lg", .str "xl"])] (.str "mx-auto md:m-2 lg:m-4"),
  bundledCase "compile_responsive" "responsive-skips-malformed" [("category", .str "padding"),
    ("value_map", .ofFields [("base", .ofFields [("type", .str "all"), ("value", .str "3")]),
    ("md", .ofFields [("type", .str "bogus")])])] (.str "p-3"),
  bundledCase "compile_responsive" "responsive-empty-map" [("category", .str "padding"),
    ("value_map", .ofFields [])] (.str "")]

/-- The cases on the spacing of an element. -/
def spacingCases : List Value := [
  bundledCase "compile_spacing" "spacing-all-categories" [("attributes", .ofFields [("gap",
    .ofFields [("base", .str "2")]), ("padding", .ofFields [("base", .ofFields [("type",
    .str "sides"), ("top", .str "2")])]), ("margin", .ofFields [("md", .ofFields [("type",
    .str "split"), ("y", .str "4")])])])] (.str "has-spacing has-gap gap-2 pt-2 md:my-4"),
  bundledCase "compile_spacing" "spacing-empty-attributes" [("attributes", .ofFields [])] (.str ""),
  bundledCase "compile_spacing" "spacing-only-empty-values" [("attributes", .ofFields [("padding",
    .ofFields [("base", .str "")]), ("margin", .ofFields [("md", .ofFields [("type",
    .str "bogus")])])])] (.str "")]

/-- The cases on property names. -/
def propertyCases : List Value := [
  bundledCase "canonical_property" "property-camel" [("name", .str "fontSize")] (.str "font-size"),
  bundledCase "canonical_property" "property-kebab" [("name", .str "letter-spacing")]
    (.str "letter-spacing"),
  bundledCase "canonical_property" "property-two-humps" [("name", .str "textDecorationLine")]
    (.str "text-decoration-line"),
  bundledCase "canonical_property" "property-vendor" [("name", .str "WebkitTextStroke")]
    (.str "-webkit-text-stroke")]

/-- The cases on labels. -/
def labelCases : List Value := [
  bundledCase "derive_label" "label-font-size-weight" [("id", .str "termina-16-400")]
    (.str "Termina • 16px • Regular"),
  bundledCase "derive_label" "label-bold" [("id", .str "inter-24-700")]
    (.str "Inter • 24px • Bold"),
  bundledCase "derive_label" "label-unknown-weight" [("id", .str "mono-12-450")]
    (.str "Mono • 12px • 450"),
  bundledCase "derive_label" "label-named-weight" [("id", .str "serif-18-light")]
    (.str "Serif • 18px • Light"),
  bundledCase "derive_label" "label-two-segments" [("id", .str "body-large")] (.str "Body Large"),
  bundledCase "derive_label" "label-non-numeric-middle" [("id", .str "display-xl-700")]
    (.str "Display Xl 700"),
  bundledCase "derive_label" "label-underscores" [("id", .str "heading_xl-bold")]
    (.str "Heading Xl Bold")]

/-- The cases on the values of declarations. -/
def valueCases : List Value := [
  bundledCase "process_value" "value-letter-spacing-50" [("property", .str "letter-spacing"),
    ("value", .str "50%")] (.str "0.5em"),
  bundledCase "process_value" "value-letter-spacing-negative" [("property", .str "letter-spacing"),
    ("value", .str "-10%")] (.str "-0.1em"),
  bundledCase "process_value" "value-letter-spacing-5" [("property", .str "letter-spacing"),
    ("value", .str "5%")] (.str "0.05em"),
  bundledCase "process_value" "value-letter-spacing-57" [("property", .str "letter-spacing"),
    ("value", .str "57%")] (.str "0.57em"),
  bundledCase "process_value" "value-letter-spacing-em" [("property", .str "letter-spacing"),
    ("value", .str "0.1em")] (.str "0.1em"),
  bundledCase "process_value" "value-line-height-auto" [("property", .str "line-height"), ("value",
    .str "auto")] (.str "normal"),
  bundledCase "process_value" "value-zero-kept" [("property", .str "margin-top"), ("value",
    .str "0")] (.str "0"),
  bundledCase "process_value" "value-empty-dropped" [("property", .str "font-size"), ("value",
    .str "")] .null,
  bundledCase "process_value" "value-undefined-dropped" [("property", .str "font-size"), ("value",
    .str "undefined")] .null,
  bundledCase "process_value" "value-null-string-dropped" [("property", .str "font-size"),
    ("value", .str "null")] .null,
  bundledCase "process_value" "value-boolean-dropped" [("property", .str "font-size"), ("value",
    .bool true)] .null,
  bundledCase "process_value" "value-quotes-stripped" [("property", .str "font-family"), ("value",
    .str "\"Inter\", sans-serif")] (.str "Inter, sans-serif"),
  bundledCase "process_value" "value-markup-stripped" [("property", .str "font-size"), ("value",
    .str "<script>")] (.str "script"),
  bundledCase "process_value" "value-only-quotes" [("property", .str "content"), ("value",
    .str "''")] .null,
  bundledCase "process_value" "value-float" [("property", .str "line-height"), ("value", decimal
    false 15 (-1))] (.str "1.5"),
  bundledCase "process_value" "value-integer" [("property", .str "font-weight"), ("value",
    .int 400)] (.str "400")]

/-- The cases on the rules of presets. -/
def ruleCases : List Value := [
  bundledCase "generate" "generate-scenario-b" [("id", .str "termina-16-400"), ("preset", .ofFields
    [("label", .str "Termina • 16px • Regular"), ("properties", .ofFields [("fontSize",
    .str "16px"), ("letterSpacing", .str "5%")])])] (lines [".has-type-preset-termina-16-400 \x7b",
    "    font-size: 16px;", "    letter-spacing: 0.05em;", "\x7d"]),
  bundledCase "generate" "generate-annotated" [("id", .str "body"), ("preset", .ofFields [("label",
    .str "Body <Text>"), ("properties", .ofFields [("lineHeight", .str "auto"), ("fontWeight",
    .int 600)])]), ("annotate", .bool true)] (lines ["/* Typography Preset: Body Text */",
    ".has-type-preset-body \x7b", "    line-height: normal;", "    font-weight: 600;", "\x7d"]),
  bundledCase "generate" "generate-nothing-valid" [("id", .str "empty"), ("preset", .ofFields
    [("properties", .ofFields [("fontSize", .str ""), ("bad_name", .str "x")])])] (.str ""),
  bundledCase "generate" "generate-drops-bad-property" [("id", .str "x"), ("preset", .ofFields
    [("properties", .ofFields [("font size", .str "12px"), ("color", .str "red")])])] (lines
    [".has-type-preset-x \x7b", "    color: red;", "\x7d"]),
  bundledCase "generate" "generate-zero-value" [("id", .str "flush"), ("preset", .ofFields
    [("properties", .ofFields [("marginTop", .str "0")])])] (lines [".has-type-preset-flush \x7b",
    "    margin-top: 0;", "\x7d"]),
  bundledCase "generate" "generate-properties-not-object" [("id", .str "odd"), ("preset", .ofFields
    [("properties", .str "font-size: 12px")])] (.str "")]

/-- The cases on stylesheets. -/
def sheetCases : List Value := [
  bundledCase "generate_all" "generate-all-skips-empty" [("registry", .ofFields [("a", .ofFields
    [("properties", .ofFields [("fontSize", .str "12px")])]), ("empty", .ofFields [("properties",
    .ofFields [])]), ("b", .ofFields [("properties", .ofFields [("fontSize", .str "14px"),
    ("lineHeight", .str "1.2")])])])] (lines [".has-type-preset-a \x7b", "    font-size: 12px;",
    "\x7d", "", ".has-type-preset-b \x7b", "    font-size: 14px;", "    line-height: 1.2;",
    "\x7d"]),
  bundledCase "generate_all" "generate-all-empty-registry" [("registry", .ofFields [])] (.str ""),
  bundledCase "generate_all" "generate-all-annotated-fallback-label" [("registry", .ofFields
    [("caption", .ofFields [("properties", .ofFields [("fontSize", .str "11px")])])]), ("annotate",
    .bool true)] (lines ["/* Typography Preset: caption */", ".has-type-preset-caption \x7b",
    "    font-size: 11px;", "\x7d"])]

/-- The cases on documents with presets. -/
def documentCases : List Value := [
  bundledCase "load_presets" "load-full-document" [("document", .ofFields [("modules", .ofFields
    [("typographyPresets", .ofFields [("groups", .ofFields [("headings", .ofFields [("title",
    .str "Headings")])]), ("items", .ofFields [("termina-16-400", .ofFields [("properties",
    .ofFields [("fontSize", .str "16px"), ("letterSpacing", .str "5%")])]), ("h1", .ofFields
    [("label", .str "Heading 1"), ("group", .str "headings"), ("properties", .ofFields
    [("font-size", .str "40px"), ("fontSize", .str "42px")])]), ("Bad Id", .ofFields
    [("properties", .ofFields [("color", .str "red")])]), ("body", .ofFields [("group",
    .str "content"), ("group_title", .str "Content"), ("description", .str "Body copy"),
    ("properties", .str "oops")])])])])])] (.ofFields [("status", .str "ok"), ("presets", .list
    [.list [.str "termina-16-400", .ofFields [("label", .str "Termina • 16px • Regular"),
    ("description", .str ""), ("group", .str "theme"), ("group_title", .null), ("properties",
    .ofFields [("font-size", .str "16px"), ("letter-spacing", .str "5%")])]], .list [.str "h1",
    .ofFields [("label", .str "Heading 1"), ("description", .str ""), ("group", .str "headings"),
    ("group_title", .str "Headings"), ("properties", .ofFields [("font-size", .str "42px")])]],
    .list [.str "body", .ofFields [("label", .str "Body"), ("description", .str "Body copy"),
    ("group", .str "content"), ("group_title", .str "Content"), ("properties", .ofFields [])]]])]),
  bundledCase "load_presets" "load-missing-document" [("document", .null)] (.ofFields [("status",
    .str "missing"), ("presets", .list [])]),
  bundledCase "load_presets" "load-no-container" [("document", .ofFields [("modules", .ofFields
    [])])] (.ofFields [("status", .str "no_container"), ("presets", .list [])]),
  bundledCase "load_presets" "load-custom-container" [("document", .ofFields [("presets", .ofFields
    [("items", .ofFields [("caption", .ofFields [("properties", .ofFields [("fontSize",
    .str "11px")])])])])]), ("container", .list [.str "presets"]), ("default_group", .str "type")]
    (.ofFields [("status", .str "ok"), ("presets", .list [.list [.str "caption", .ofFields
    [("label", .str "Caption"), ("description", .str ""), ("group", .str "type"), ("group_title",
    .null), ("properties", .ofFields [("font-size", .str "11px")])]]])])]

/-- The cases on entries that hold numbers. -/
def numberCases : List Value := [
  bundledCase "normalize" "number-bare-fifteen-digits" [("raw", .int 123456789012345)] (.ofFields
    [("all", .str "123456789012345")]),
  bundledCase "normalize" "number-all-fifteen-digits" [("raw", .ofFields [("type", .str "all"),
    ("value", .int 123456789012345)])] (.ofFields [("all", .str "123456789012345")]),
  bundledCase "normalize" "number-unsafe-integer" [("raw", .ofFields [("type", .str "sides"),
    ("top", .int 1152921504606846976)])] (.ofFields [("top", .str "1152921504606800000")]),
  bundledCase "normalize" "number-whole-float" [("raw", .ofFields [("type", .str "split"), ("x",
    decimal false 20 (-1))])] (.ofFields [("x", .str "2")]),
  bundledCase "normalize" "number-rounding-tie" [("raw", decimal false 123456789012345 (-1))]
    (.ofFields [("all", .str "12345678901235")]),
  bundledCase "normalize" "number-negative-rounding-tie" [("raw", decimal true 123456789012325
    (-2))] (.ofFields [("all", .str "-1234567890123.3")])]

/-- The cases on values that are whole numbers. -/
def wholeNumberCases : List Value := [
  bundledCase "process_value" "value-fifteen-digit-integer" [("property", .str "z-index"),
    ("value", .int 123456789012345)] (.str "123456789012345"),
  bundledCase "process_value" "value-whole-float" [("property", .str "font-weight"), ("value",
    decimal false 7000 (-1))] (.str "700")]

/-- The cases on rules of presets whose labels are no texts. -/
def oddLabelCases : List Value := [
  bundledCase "generate" "generate-boolean-label" [("id", .str "x"), ("preset", .ofFields
    [("label", .bool true), ("properties", .ofFields [("color", .str "red")])]), ("annotate",
    .bool true)] (lines ["/* Typography Preset: x */", ".has-type-preset-x \x7b",
    "    color: red;", "\x7d"]),
  bundledCase "generate" "generate-numeric-label" [("id", .str "y"), ("preset", .ofFields
    [("label", decimal false 10 (-1)), ("properties", .ofFields [("color", .str "blue")])]),
    ("annotate", .bool true)] (lines ["/* Typography Preset: y */", ".has-type-preset-y \x7b",
    "    color: blue;", "\x7d"])]

/-- The cases on documents whose fields are no texts. -/
def oddFieldCases : List Value := [
  bundledCase "load_presets" "load-non-string-text-fields" [("document", .ofFields [("modules",
    .ofFields [("typographyPresets", .ofFields [("groups", .ofFields [("misc", .ofFields [("title",
    decimal false 10 (-1))])]), ("items", .ofFields [("body-text", .ofFields [("label",
    .bool true), ("description", .int 5), ("group", .str "misc"), ("group_title", decimal false 10
    (-1)), ("properties", .ofFields [("fontSize", .str "1rem")])]), ("caption", .ofFields
    [("label", .str ""), ("group", .int 7), ("group_title", .bool false), ("properties", .ofFields
    [])])])])])])] (.ofFields [("status", .str "ok"), ("presets", .list [.list [.str "body-text",
    .ofFields [("label", .str "Body Text"), ("description", .str ""), ("group", .str "misc"),
    ("group_title", .null), ("properties", .ofFields [("font-size", .str "1rem")])]], .list
    [.str "caption", .ofFields [("label", .str "Caption"), ("description", .str ""), ("group",
    .str "theme"), ("group_title", .null), ("properties", .ofFields [])]]])])]

/-- All cases. -/
def bundledCases : List Value :=
  entryCases ++ classNameCases ++ responsiveCases ++ spacingCases ++ propertyCases ++ labelCases ++
    valueCases ++ ruleCases ++ sheetCases ++ documentCases ++ numberCases ++ wholeNumberCases ++
    oddLabelCases ++ oddFieldCases

/-- The cases in the bytes of a file. -/
def casesOfBytes (path : Path) (bytes : List UInt8) : Except Fault (List Value) :=
  match decodeText bytes with
  | .error fault => .error (.decoding fault)
  | .ok text =>
    match Json.parse text with
    | .error (.unconvertible problem) => .error (.unconvertible problem)
    | .error .malformed => .error (.notConforming ("Invalid corpus " ++ path.text ++ ": no JSON"))
    | .ok (.map entries) =>
      match Value.Entries.get entries "cases" with
      | .list cases => .ok cases
      | _ => .error (.notConforming ("Corpus " ++ path.text ++ " has no 'cases' list"))
    | .ok _ => .error (.notConforming ("Corpus " ++ path.text ++ " has no 'cases' list"))

/-- The cases of a file, or the bundled ones. -/
def loadCorpus : Option Path → FileDialogue (Except Fault (List Value))
  | none => .done (.ok bundledCases)
  | some path => .ask (.read path) fun
    | .ok bytes => .done (casesOfBytes path bytes)
    | .error fault =>
      .done (.error (if fault.isRefusal then
          .notConforming ("Cannot read corpus " ++ path.text ++ ": " ++ fault.message)
        else .file fault))

end StyleTokens.Conformance
