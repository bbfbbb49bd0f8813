import TypeFoundry.Modules.Arena

/-!
# Summaries

One line about a module or a handle, for logs. Texts stand in quotes, and two dots at the end say
that something is left out.
-/

set_option autoImplicit false

namespace TypeFoundry

/-- A record of the given name with its fields; `isOpen` if it has further ones. -/
def summarize (name : String) (fields : List (String × String)) (isOpen : Bool) : String :=
  let parts := fields.map (fun f => f.1 ++ ": " ++ f.2) ++ if isOpen then [".."] else []
  name ++ " \x7b " ++ ", ".intercalate parts ++ " \x7d"

/-- The identity in a summary. -/
def ModuleId.summary (id : ModuleId) : String := "ModuleId(" ++ id.hyphenated ++ ")"

/-- The handle in a summary. -/
def TypeHandle.summary (h : TypeHandle) : String :=
  summarize "TypeHandle"
    [("full_name", Text.quoted h.path.display), ("module", h.module.id.summary),
      ("generation", toString h.module.generation), ("fields", toString h.fields.length)] false

/-- Which module it is, in a summary. -/
def ModuleInfo.summary (m : ModuleInfo) : String :=
  summarize "ModuleInfo"
    [("id", m.id.summary), ("generation", toString m.generation), ("origin", m.origin.label)] false

/-- The pending module in a summary. -/
def PendingModule.summary (p : PendingModule) : String :=
  summarize "PendingModule"
    [("id", p.id.summary), ("origin", p.origin.label), ("artifact", Text.quoted p.artifact)] true

/-- The module in a summary. -/
def LoadedModule.summary (m : LoadedModule) : String :=
  summarize "LoadedModule"
    [("info", m.info.summary), ("artifact", Text.quoted m.artifact),
      ("types", "[" ++ ", ".intercalate (m.types.map TypeHandle.summary) ++ "]")] true

end TypeFoundry
