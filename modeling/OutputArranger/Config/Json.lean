import OutputArranger.Config.Command
import OutputArranger.Json.Basic

/-!
# Configurations and commands in JSON

A record is an object, or an array of its values in order. A command is an object with one member,
named for the setting that it changes.
-/

namespace OutputArranger

open Json (unique? onlyKeys)

/-- The name of a plain alternative: a string, or an object with one empty member. -/
def Json.asName? : Json → Option String
  | .string s => some s
  | .object [(key, .null)] => some key
  | _ => none

/-- The single member of an object. -/
def Json.asMember? : Json → Option (String × Json)
  | .object [member] => some member
  | _ => none

namespace UserScale

def toJson (s : UserScale) : Json :=
  .object [("name_desc", .string s.pattern), ("scale", .float s.scale)]

def ofJson? : Json → Option UserScale
  | .array [p, s] => do some ⟨← p.asString?, ← s.asFloat?⟩
  | .object members => do
      if !onlyKeys ["name_desc", "scale"] members then none
      let p ← ← unique? "name_desc" members
      let s ← ← unique? "scale" members
      some ⟨← p.asString?, ← s.asFloat?⟩
  | _ => none

end UserScale

namespace UserTransform

def toJson (t : UserTransform) : Json :=
  .object [("name_desc", .string t.pattern), ("transform", .string t.transform.name)]

def transformOf? (j : Json) : Option Transform := j.asName?.bind Transform.ofName?

def ofJson? : Json → Option UserTransform
  | .array [p, t] => do some ⟨← p.asString?, ← transformOf? t⟩
  | .object members => do
      if !onlyKeys ["name_desc", "transform"] members then none
      let p ← ← unique? "name_desc" members
      let t ← ← unique? "transform" members
      some ⟨← p.asString?, ← transformOf? t⟩
  | _ => none

end UserTransform

namespace Config

def strings (xs : List String) : Json := .array (xs.map .string)

def toJson (c : Config) : Json :=
  .object
    [("arrange", .string c.arrange.name), ("align", .string c.align.name),
     ("order", strings c.order), ("auto_scale", .bool c.autoScale),
     ("max_preferred_refresh", strings c.fastest), ("disabled", strings c.disabled),
     ("laptop_display_prefix", .string c.laptopPrefix),
     ("log_threshold", .string c.threshold.name),
     ("scale", .array (c.scales.map UserScale.toJson)),
     ("transform", .array (c.transforms.map UserTransform.toJson))]

/-- The configuration of the values of its settings, in order; a missing one has its default. -/
def ofValues? (values : List (Option Json)) : Option Config := do
  let value (i : Nat) : Option Json := (values[i]?).join
  let read {α : Type} (i : Nat) (start : α) (f : Json → Option α) : Option α :=
    match value i with
    | none => some start
    | some j => f j
  some
    { arrange := ← read 0 default.arrange fun j => j.asName?.bind Arrange.ofName?
      align := ← read 1 default.align fun j => j.asName?.bind Align.ofName?
      order := ← read 2 default.order Json.asStrings?
      autoScale := ← read 3 default.autoScale Json.asBool?
      fastest := ← read 4 default.fastest Json.asStrings?
      disabled := ← read 5 default.disabled Json.asStrings?
      laptopPrefix := ← read 6 default.laptopPrefix Json.asString?
      threshold := ← read 7 default.threshold fun j => j.asName?.bind LogThreshold.ofName?
      scales := ← read 8 default.scales fun j => do (← j.asArray?).mapM UserScale.ofJson?
      transforms := ← read 9 default.transforms fun j => do
        (← j.asArray?).mapM UserTransform.ofJson? }

/-- The configuration of a JSON value. Unknown settings are refused. -/
def ofJson? : Json → Option Config
  | .array items => if items.length ≤ settings.length then ofValues? (items.map some) else none
  | .object members => do
      if !onlyKeys settings members then none
      ofValues? (← settings.mapM fun key => unique? key members)
  | _ => none

end Config

namespace ConfigCommand

/-- A name or null. -/
def optionName : Option String → Json := Json.optionString

def toJson : ConfigCommand → Json
  | .setArrangeAlign arrange align =>
      .object [("set_arrange_align", .object
        [("arrange", optionName (arrange.map Arrange.name)),
         ("align", optionName (align.map Align.name))])]
  | .setOrder patterns => .object [("set_order", Config.strings patterns)]
  | .setAutoScale on => .object [("set_auto_scale", .bool on)]
  | .setScale entry => .object [("set_scale", entry.toJson)]
  | .deleteScale p => .object [("delete_scale", .string p)]
  | .setTransform entry => .object [("set_transform", entry.toJson)]
  | .deleteTransform p => .object [("delete_transform", .string p)]
  | .addFastest p => .object [("add_max_preferred_refresh", .string p)]
  | .deleteFastest p => .object [("delete_max_preferred_refresh", .string p)]
  | .addDisabled p => .object [("add_disabled", .string p)]
  | .deleteDisabled p => .object [("delete_disabled", .string p)]
  | .setLaptopPrefix s => .object [("set_laptop_display_prefix", .string s)]
  | .setThreshold t => .object [("set_log_threshold", .string t.name)]

/-- An optional name: null is none. -/
def optionOf? {α : Type} (ofName? : String → Option α) : Json → Option (Option α)
  | .null => some none
  | j => (j.asName?.bind ofName?).map some

/-- The two values of an arrangement, as an object or as an array of both. -/
def arrangeAlignOf? : Json → Option ConfigCommand
  | .array [r, a] => do
      some (.setArrangeAlign (← optionOf? Arrange.ofName? r) (← optionOf? Align.ofName? a))
  | .object members => do
      let r := (← unique? "arrange" members).getD .null
      let a := (← unique? "align" members).getD .null
      some (.setArrangeAlign (← optionOf? Arrange.ofName? r) (← optionOf? Align.ofName? a))
  | _ => none

/-- The command of a JSON value. -/
def ofJson? (j : Json) : Option ConfigCommand := do
  let (name, value) ← j.asMember?
  match name with
  | "set_arrange_align" => arrangeAlignOf? value
  | "set_order" => value.asStrings?.map .setOrder
  | "set_auto_scale" => value.asBool?.map .setAutoScale
  | "set_scale" => (UserScale.ofJson? value).map .setScale
  | "delete_scale" => value.asString?.map .deleteScale
  | "set_transform" => (UserTransform.ofJson? value).map .setTransform
  | "delete_transform" => value.asString?.map .deleteTransform
  | "add_max_preferred_refresh" => value.asString?.map .addFastest
  | "delete_max_preferred_refresh" => value.asString?.map .deleteFastest
  | "add_disabled" => value.asString?.map .addDisabled
  | "delete_disabled" => value.asString?.map .deleteDisabled
  | "set_laptop_display_prefix" => value.asString?.map .setLaptopPrefix
  | "set_log_threshold" => (value.asName?.bind LogThreshold.ofName?).map .setThreshold
  | _ => none

end ConfigCommand

end OutputArranger
