import Dashboard.Registry.Basic

/-!
# The bundled registry

The tables of the dashboards: traces, observations and scores, alone and joined. Each table lists as
tenant columns the project of the entities that it is joined from.
-/

namespace Dashboard
namespace Bundled

/-- A column without a cast. -/
def plain (name internal : String) (type : SemanticType) : Column := ⟨name, internal, type, none⟩

/-- Traces. -/
def traces : Table where
  name := "traces"
  source := "traces t"
  columns := [
    plain "id" "t.\"id\"" .string,
    plain "name" "t.\"name\"" .string,
    plain "userId" "t.\"user_id\"" .string,
    plain "sessionId" "t.\"session_id\"" .string,
    plain "release" "t.\"release\"" .string,
    plain "version" "t.\"version\"" .string,
    plain "timestamp" "t.\"timestamp\"" .datetime,
    plain "tracesProjectId" "t.\"project_id\"" .string]
  tenantColumns := ["tracesProjectId"]

/-- Observations. -/
def observations : Table where
  name := "observations"
  source := "observations o"
  columns := [
    plain "id" "o.\"id\"" .string,
    plain "traceId" "o.\"trace_id\"" .string,
    ⟨"type", "o.\"type\"", .string, some "ObservationType"⟩,
    plain "name" "o.\"name\"" .string,
    plain "model" "o.\"model\"" .string,
    ⟨"level", "o.\"level\"", .string, some "ObservationLevel"⟩,
    plain "startTime" "o.\"start_time\"" .datetime,
    plain "endTime" "o.\"end_time\"" .datetime,
    plain "completionStartTime" "o.\"completion_start_time\"" .datetime,
    plain "latency"
      "EXTRACT(EPOCH FROM o.\"end_time\") - EXTRACT(EPOCH FROM o.\"start_time\")"
      .number,
    plain "promptTokens" "o.\"prompt_tokens\"" .number,
    plain "completionTokens" "o.\"completion_tokens\"" .number,
    plain "totalTokens" "o.\"total_tokens\"" .number,
    plain "observationsProjectId" "o.\"project_id\"" .string]
  tenantColumns := ["observationsProjectId"]

/-- The join that adds the observations of each trace, if there are any. -/
def withObservations : String :=
  " LEFT JOIN observations o ON t.\"id\" = o.\"trace_id\"" ++
    " AND t.\"project_id\" = o.\"project_id\""

/-- Traces with their observations, and traces without any. -/
def tracesObservations : Table where
  name := "traces_observations"
  source := "traces t" ++ withObservations
  columns := [
    plain "traceId" "t.\"id\"" .string,
    plain "traceName" "t.\"name\"" .string,
    plain "userId" "t.\"user_id\"" .string,
    plain "release" "t.\"release\"" .string,
    plain "version" "t.\"version\"" .string,
    plain "timestamp" "t.\"timestamp\"" .datetime,
    plain "observationId" "o.\"id\"" .string,
    ⟨"type", "o.\"type\"", .string, some "ObservationType"⟩,
    plain "observationName" "o.\"name\"" .string,
    plain "model" "o.\"model\"" .string,
    plain "startTime" "o.\"start_time\"" .datetime,
    plain "latency"
      "EXTRACT(EPOCH FROM o.\"end_time\") - EXTRACT(EPOCH FROM o.\"start_time\")"
      .number,
    plain "totalTokens" "o.\"total_tokens\"" .number,
    plain "tracesProjectId" "t.\"project_id\"" .string,
    plain "observationsProjectId" "o.\"project_id\"" .string]
  tenantColumns := ["tracesProjectId", "observationsProjectId"]

/-- Traces with their scores. -/
def tracesScores : Table where
  name := "traces_scores"
  source :=
    "traces t" ++
      " JOIN scores s ON t.\"id\" = s.\"trace_id\" AND t.\"project_id\" = s.\"project_id\""
  columns := [
    plain "traceId" "t.\"id\"" .string,
    plain "traceName" "t.\"name\"" .string,
    plain "userId" "t.\"user_id\"" .string,
    plain "release" "t.\"release\"" .string,
    plain "version" "t.\"version\"" .string,
    plain "scoreId" "s.\"id\"" .string,
    plain "scoreName" "s.\"name\"" .string,
    plain "value" "s.\"value\"" .number,
    plain "timestamp" "s.\"timestamp\"" .datetime,
    plain "tracesProjectId" "t.\"project_id\"" .string]
  tenantColumns := ["tracesProjectId"]

/-- Traces with their observations and the scores of these, as far as there are any. -/
def tracesParentObservationScores : Table where
  name := "traces_parent_observation_scores"
  source :=
    "traces t" ++ withObservations ++
      " LEFT JOIN scores s ON t.\"id\" = s.\"trace_id\" AND s.\"observation_id\" = o.\"id\""
  columns := [
    plain "traceId" "t.\"id\"" .string,
    plain "traceName" "t.\"name\"" .string,
    plain "timestamp" "t.\"timestamp\"" .datetime,
    plain "observationId" "o.\"id\"" .string,
    ⟨"type", "o.\"type\"", .string, some "ObservationType"⟩,
    plain "model" "o.\"model\"" .string,
    plain "startTime" "o.\"start_time\"" .datetime,
    plain "scoreName" "s.\"name\"" .string,
    plain "value" "s.\"value\"" .number,
    plain "tracesProjectId" "t.\"project_id\"" .string,
    plain "observationsProjectId" "o.\"project_id\"" .string]
  tenantColumns := ["tracesProjectId", "observationsProjectId"]

end Bundled

/-- The registry of the dashboards. -/
def Registry.bundled : Registry where
  version := .int 1
  tables := [Bundled.traces, Bundled.observations, Bundled.tracesObservations,
    Bundled.tracesScores, Bundled.tracesParentObservationScores]

end Dashboard
