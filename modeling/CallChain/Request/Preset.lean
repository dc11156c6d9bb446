/-
# Presets and starting bodies

A preset is a page size and a list of fields to ask for, by the amount of detail
wanted; the fields depend on what the path is about. A starting body is an
example of what an endpoint accepts.
-/

import CallChain.Endpoint
import CallChain.Json.Writer
import CallChain.Text.Case

namespace CallChain

/-- How much detail a request asks for. -/
inductive Preset where
  | minimal | detailed | full
  deriving DecidableEq, Repr

namespace Preset

/-- The name of a preset. -/
def name : Preset → String
  | minimal => "minimal"
  | detailed => "detailed"
  | full => "full"

/-- The preset of a name. -/
def ofName? (text : String) : Option Preset := [minimal, detailed, full].find? (·.name = text)

/-- The page size of a preset. -/
def limit : Preset → String
  | minimal => "10"
  | detailed => "20"
  | full => "50"

/-- The fields of each preset. -/
structure FieldLists where
  /-- The fields that tell items apart. -/
  minimal : String
  /-- The fields of an overview. -/
  detailed : String
  /-- All fields that are of interest. -/
  full : String

/-- The fields by a fragment of the path; the first fragment that occurs counts. -/
def fieldLists : List (String × FieldLists) :=
  [("/tasks", ⟨"gid,name,completed",
      "gid,name,completed,assignee.name,due_date,created_at",
      "gid,name,completed,assignee,due_date,notes,created_at,modified_at,projects.name,tags.name"⟩),
   ("/projects", ⟨"gid,name,completed",
      "gid,name,completed,team.name,created_at,modified_at",
      "gid,name,completed,notes,team,members.name,created_at,modified_at,archived,color"⟩),
   ("/workspaces", ⟨"gid,name",
      "gid,name,is_organization",
      "gid,name,is_organization,email_domains"⟩),
   ("/users", ⟨"gid,name",
      "gid,name,created_at,modified_at",
      "gid,name,email,photo.image_128x128,workspaces.name"⟩)]

/-- The fields of a path that no fragment occurs in. -/
def otherFields : FieldLists :=
  ⟨"gid,name", "gid,name,created_at,modified_at", "gid,name,created_at,modified_at"⟩

/-- The fields of a preset for a path. -/
def fields (preset : Preset) (path : String) : String :=
  let chars := (Text.small path).toList
  let lists := (fieldLists.find? fun (fragment, _) =>
    Text.occursIn fragment.toList chars).map Prod.snd |>.getD otherFields
  match preset with
  | minimal => lists.minimal
  | detailed => lists.detailed
  | full => lists.full

/-- The query parameters of a preset for a path. -/
def parameters (preset : Preset) (path : String) : Fields String :=
  [("limit", preset.limit), ("opt_fields", preset.fields path)]

end Preset

/-- The starting body of an endpoint. -/
def Endpoint.sampleBody (e : Endpoint) : String :=
  let path := (Text.small e.path).toList
  let isAbout := fun (fragment : String) =>
    e.method == .post && Text.occursIn fragment.toList path
  let data : List (String × Value) :=
    if isAbout "/task" then
      [("name", .text "New task name"), ("notes", .text "Task description"),
       ("projects", .list [.text "project_gid_here"])]
    else if isAbout "/project" then
      [("name", .text "New project name"), ("notes", .text "Project description"),
       ("team", .text "team_gid_here")]
    else [("name", .text "Example name"), ("notes", .text "Example description")]
  Json.indented (.object [("data", .object data)])

end CallChain
