/-
# The built-in catalog

The endpoints that are offered when no API document can be read, group by group.
In the table a parameter of a path is written as a segment that starts with a
colon.
-/

import CallChain.Endpoint

namespace CallChain.Catalog

/-- A path of the table as a template, with its parameters between braces. -/
def template (path : String) : String :=
  String.ofList (Text.joinWith ['/'] ((Text.splitAt '/' path.toList).map fun
    | ':' :: name => '\x7b' :: name ++ ['\x7d']
    | segment => segment))

/-- The built-in endpoints: each group with the method, path and summary of its
endpoints. -/
def builtinGroups : List (String × List (Method × String × String)) :=
  [("Access requests", [
    (.get, "/access_requests", "Get access requests"),
    (.post, "/access_requests", "Create an access request"),
    (.post, "/access_requests/:access_request_gid/approve", "Approve an access request"),
    (.post, "/access_requests/:access_request_gid/reject", "Reject an access request")]),
   ("Allocations", [
    (.get, "/allocations/:allocation_gid", "Get an allocation"),
    (.put, "/allocations/:allocation_gid", "Update an allocation"),
    (.delete, "/allocations/:allocation_gid", "Delete an allocation"),
    (.get, "/allocations", "Get multiple allocations"),
    (.post, "/allocations", "Create an allocation")]),
   ("Attachments", [
    (.get, "/attachments/:attachment_gid", "Get an attachment"),
    (.delete, "/attachments/:attachment_gid", "Delete an attachment"),
    (.get, "/attachments", "Get attachments from an object"),
    (.post, "/attachments", "Create an attachment")]),
   ("Audit log API", [
    (.get, "/workspaces/:workspace_gid/audit_log_events", "Get audit log events")]),
   ("Batch API", [
    (.post, "/batch", "Submit parallel requests")]),
   ("Custom fields", [
    (.get, "/custom_fields/:custom_field_gid", "Get a custom field"),
    (.put, "/custom_fields/:custom_field_gid", "Update a custom field"),
    (.delete, "/custom_fields/:custom_field_gid", "Delete a custom field"),
    (.get, "/custom_fields", "Get multiple custom fields"),
    (.post, "/custom_fields", "Create a custom field")]),
   ("Events", [
    (.get, "/events", "Get events on a resource")]),
   ("Goals", [
    (.get, "/goals/:goal_gid", "Get a goal"),
    (.put, "/goals/:goal_gid", "Update a goal"),
    (.delete, "/goals/:goal_gid", "Delete a goal")]),
   ("Jobs", [
    (.get, "/jobs/:job_gid", "Get a job by id")]),
   ("Memberships", [
    (.get, "/memberships", "Get multiple memberships"),
    (.post, "/memberships", "Create a membership"),
    (.get, "/memberships/:membership_gid", "Get a membership"),
    (.put, "/memberships/:membership_gid", "Update a membership"),
    (.delete, "/memberships/:membership_gid", "Delete a membership")]),
   ("Portfolios", [
    (.get, "/portfolios", "Get multiple portfolios"),
    (.post, "/portfolios", "Create a portfolio"),
    (.get, "/portfolios/:portfolio_gid", "Get a portfolio"),
    (.put, "/portfolios/:portfolio_gid", "Update a portfolio"),
    (.delete, "/portfolios/:portfolio_gid", "Delete a portfolio")]),
   ("Projects", [
    (.get, "/projects", "Get multiple projects"),
    (.post, "/projects", "Create a project"),
    (.get, "/projects/:project_gid", "Get a project"),
    (.put, "/projects/:project_gid", "Update a project"),
    (.delete, "/projects/:project_gid", "Delete a project")]),
   ("Tasks", [
    (.get, "/tasks", "Get multiple tasks"),
    (.post, "/tasks", "Create a task"),
    (.get, "/tasks/:task_gid", "Get a task"),
    (.put, "/tasks/:task_gid", "Update a task"),
    (.delete, "/tasks/:task_gid", "Delete a task")]),
   ("Teams", [
    (.get, "/teams", "Get teams in an organization"),
    (.get, "/teams/:team_gid", "Get a team")]),
   ("Users", [
    (.get, "/users", "Get multiple users"),
    (.get, "/users/:user_gid", "Get a user"),
    (.get, "/users/me", "Get current user")]),
   ("Workspaces", [
    (.get, "/workspaces", "Get multiple workspaces"),
    (.get, "/workspaces/:workspace_gid", "Get a workspace"),
    (.put, "/workspaces/:workspace_gid", "Update a workspace")]),
   ("Webhooks", [
    (.get, "/webhooks", "Get multiple webhooks"),
    (.post, "/webhooks", "Establish a webhook"),
    (.get, "/webhooks/:webhook_gid", "Get a webhook"),
    (.put, "/webhooks/:webhook_gid", "Update a webhook"),
    (.delete, "/webhooks/:webhook_gid", "Delete a webhook")]),
   ("Stories", [
    (.get, "/stories/:story_gid", "Get a story"),
    (.put, "/stories/:story_gid", "Update a story"),
    (.delete, "/stories/:story_gid", "Delete a story")]),
   ("Sections", [
    (.post, "/sections", "Create a section"),
    (.get, "/sections/:section_gid", "Get a section"),
    (.put, "/sections/:section_gid", "Update a section"),
    (.delete, "/sections/:section_gid", "Delete a section"),
    (.get, "/projects/:project_gid/sections", "Get sections in a project")]),
   ("Tasks", [
    (.get, "/tasks/:task_gid/dependencies", "Get dependencies from a task"),
    (.get, "/tasks/:task_gid/dependents", "Get dependents from a task"),
    (.post, "/tasks/:task_gid/addDependencies", "Set dependencies for a task"),
    (.post, "/tasks/:task_gid/removeDependencies", "Unlink dependencies from a task"),
    (.post, "/tasks/:task_gid/addFollowers", "Add followers to a task"),
    (.post, "/tasks/:task_gid/removeFollowers", "Remove followers from a task"),
    (.post, "/tasks/:task_gid/addProject", "Add a project to a task"),
    (.post, "/tasks/:task_gid/removeProject", "Remove a project from a task"),
    (.get, "/tasks/:task_gid/subtasks", "Get subtasks from a task"),
    (.post, "/tasks/:task_gid/subtasks", "Create a subtask")]),
   ("Time tracking entries", [
    (.get, "/tasks/:task_gid/time_tracking_entries",
      "Get time tracking entries from a task"),
    (.post, "/tasks/:task_gid/time_tracking_entries", "Create a time tracking entry"),
    (.get, "/time_tracking_entries/:time_tracking_entry_gid",
      "Get a time tracking entry"),
    (.put, "/time_tracking_entries/:time_tracking_entry_gid",
      "Update a time tracking entry"),
    (.delete, "/time_tracking_entries/:time_tracking_entry_gid",
      "Delete a time tracking entry")]),
   ("Status updates", [
    (.post, "/status_updates", "Create a status update"),
    (.get, "/status_updates/:status_update_gid", "Get a status update"),
    (.put, "/status_updates/:status_update_gid", "Update a status update"),
    (.delete, "/status_updates/:status_update_gid", "Delete a status update")]),
   ("Tags", [
    (.get, "/tags", "Get multiple tags"),
    (.post, "/tags", "Create a tag"),
    (.get, "/tags/:tag_gid", "Get a tag"),
    (.put, "/tags/:tag_gid", "Update a tag"),
    (.delete, "/tags/:tag_gid", "Delete a tag")]),
   ("Typeahead", [
    (.get, "/workspaces/:workspace_gid/typeahead", "Get objects via typeahead")]),
   ("Organization exports", [
    (.post, "/organization_exports", "Create an organization export"),
    (.get, "/organization_exports/:organization_export_gid",
      "Get details on an organization export")]),
   ("Project templates", [
    (.post, "/project_templates/:project_template_gid/instantiateProject",
      "Instantiate a project from a project template"),
    (.get, "/teams/:team_gid/project_templates", "Get a team's project templates")]),
   ("Project status updates", [
    (.get, "/projects/:project_gid/project_statuses", "Get statuses from a project"),
    (.post, "/projects/:project_gid/project_statuses", "Create a project status")]),
   ("Rules", [
    (.post, "/rules/:rule_gid/trigger", "Trigger a rule")]),
   ("Search", [
    (.get, "/workspaces/:workspace_gid/search", "Search in a workspace")]),
   ("User task lists", [
    (.get, "/user_task_lists/:user_task_list_gid", "Get a user task list"),
    (.get, "/users/:user_gid/user_task_list", "Get a user's task list")]),
   ("Workspace memberships", [
    (.get, "/workspace_memberships", "Get multiple workspace memberships"),
    (.get, "/workspace_memberships/:workspace_membership_gid",
      "Get a workspace membership")])]

/-- The built-in endpoints, in order. -/
def builtin : List Endpoint :=
  builtinGroups.flatMap fun (tag, rows) => rows.map fun (method, path, summary) =>
    { method, path := template path, summary, tags := [tag] }

end CallChain.Catalog
