import OutputArranger.Config.Command
import OutputArranger.Ron.Reader

/-!
# Configurations and commands in record notation

A configuration is a record of its settings; a missing one has its default. A command is named for
the setting that it changes.
-/

namespace OutputArranger

open Ron (Dialect unique? required?)

namespace UserScale

def toRon (s : UserScale) : Ron :=
  .record none [("name_desc", .string s.pattern), ("scale", .ofFloat s.scale)]

def ofRon? (d : Dialect) (v : Ron) : Option UserScale := do
  let fields ← d.fields? "UserScale" v
  if !fields.all (fun f => ["name_desc", "scale"].contains f.1) then none
  some ⟨← (← required? "name_desc" fields).asString?, ← (← required? "scale" fields).asFloat?⟩

end UserScale

namespace UserTransform

def toRon (t : UserTransform) : Ron :=
  .record none [("name_desc", .string t.pattern), ("transform", .name t.transform.name)]

def ofRon? (d : Dialect) (v : Ron) : Option UserTransform := do
  let fields ← d.fields? "UserTransform" v
  if !fields.all (fun f => ["name_desc", "transform"].contains f.1) then none
  let transform ← (← required? "transform" fields).asName?
  some ⟨← (← required? "name_desc" fields).asString?, ← Transform.ofName? transform⟩

end UserTransform

namespace Config

def toRon (c : Config) : Ron :=
  .record none
    [("arrange", .name c.arrange.name), ("align", .name c.align.name),
     ("order", .ofStrings c.order), ("auto_scale", .ofBool c.autoScale),
     ("max_preferred_refresh", .ofStrings c.fastest), ("disabled", .ofStrings c.disabled),
     ("laptop_display_prefix", .string c.laptopPrefix), ("log_threshold", .name c.threshold.name),
     ("scale", .list (c.scales.map UserScale.toRon)),
     ("transform", .list (c.transforms.map UserTransform.toRon))]

/-- The value of a field, or its default. -/
def fieldOr {α : Type} (fields : List (String × Ron)) (key : String) (start : α)
    (read : Ron → Option α) : Option α := do
  match ← unique? key fields with
  | none => some start
  | some v => read v

/-- The configuration of a record. Unknown fields are refused. -/
def ofRon? (d : Dialect) (v : Ron) : Option Config := do
  let fields ← d.fields? "Config" v
  if !fields.all (fun f => settings.contains f.1) then none
  some
    { arrange := ← fieldOr fields "arrange" default.arrange fun v => v.asName?.bind Arrange.ofName?
      align := ← fieldOr fields "align" default.align fun v => v.asName?.bind Align.ofName?
      order := ← fieldOr fields "order" default.order Ron.asStrings?
      autoScale := ← fieldOr fields "auto_scale" default.autoScale Ron.asBool?
      fastest := ← fieldOr fields "max_preferred_refresh" default.fastest Ron.asStrings?
      disabled := ← fieldOr fields "disabled" default.disabled Ron.asStrings?
      laptopPrefix := ← fieldOr fields "laptop_display_prefix" default.laptopPrefix Ron.asString?
      threshold := ← fieldOr fields "log_threshold" default.threshold fun v =>
        v.asName?.bind LogThreshold.ofName?
      scales := ← fieldOr fields "scale" default.scales fun v => do
        (← v.asList?).mapM (UserScale.ofRon? d)
      transforms := ← fieldOr fields "transform" default.transforms fun v => do
        (← v.asList?).mapM (UserTransform.ofRon? d) }

end Config

namespace ConfigCommand

def toRon : ConfigCommand → Ron
  | .setArrangeAlign arrange align =>
      .record (some "set_arrange_align")
        [("arrange", .ofOption (arrange.map fun a => .name a.name)),
         ("align", .ofOption (align.map fun a => .name a.name))]
  | .setOrder patterns => .group (some "set_order") [.ofStrings patterns]
  | .setAutoScale on => .group (some "set_auto_scale") [.ofBool on]
  | .setScale entry => .group (some "set_scale") [entry.toRon]
  | .deleteScale p => .group (some "delete_scale") [.string p]
  | .setTransform entry => .group (some "set_transform") [entry.toRon]
  | .deleteTransform p => .group (some "delete_transform") [.string p]
  | .addFastest p => .group (some "add_max_preferred_refresh") [.string p]
  | .deleteFastest p => .group (some "delete_max_preferred_refresh") [.string p]
  | .addDisabled p => .group (some "add_disabled") [.string p]
  | .deleteDisabled p => .group (some "delete_disabled") [.string p]
  | .setLaptopPrefix s => .group (some "set_laptop_display_prefix") [.string s]
  | .setThreshold t => .group (some "set_log_threshold") [.name t.name]

/-- An optional setting, which may be missing. -/
def optional? {α : Type} (d : Dialect) (ofName? : String → Option α)
    (fields : List (String × Ron)) (key : String) : Option (Option α) := do
  match ← unique? key fields with
  | none => some none
  | some v => d.option? (fun v => v.asName?.bind ofName?) v

/-- The command of a named value. -/
def ofRon? (d : Dialect) (v : Ron) : Option ConfigCommand := do
  match v with
  | .record (some "set_arrange_align") fields =>
      some (.setArrangeAlign (← optional? d Arrange.ofName? fields "arrange")
        (← optional? d Align.ofName? fields "align"))
  | .group (some "set_arrange_align") [] => some (.setArrangeAlign none none)
  | _ =>
      let (name, held) ← d.variant? v
      match name with
      | "set_order" => held.asStrings?.map .setOrder
      | "set_auto_scale" => held.asBool?.map .setAutoScale
      | "set_scale" => (UserScale.ofRon? d held).map .setScale
      | "delete_scale" => held.asString?.map .deleteScale
      | "set_transform" => (UserTransform.ofRon? d held).map .setTransform
      | "delete_transform" => held.asString?.map .deleteTransform
      | "add_max_preferred_refresh" => held.asString?.map .addFastest
      | "delete_max_preferred_refresh" => held.asString?.map .deleteFastest
      | "add_disabled" => held.asString?.map .addDisabled
      | "delete_disabled" => held.asString?.map .deleteDisabled
      | "set_laptop_display_prefix" => held.asString?.map .setLaptopPrefix
      | "set_log_threshold" => (held.asName?.bind LogThreshold.ofName?).map .setThreshold
      | _ => none

end ConfigCommand

end OutputArranger
