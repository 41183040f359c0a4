import Evidence.Kubernetes.Shape

/-!
# The shape of a pod

What the API knows of a pod.  The fields of every object are in the order of their names, which
is the order in which they are written.

Main definitions:

- `PodShape.metadata`, `PodShape.container`, `PodShape.spec` and `PodShape.status`: the parts of
  a pod.
- `PodShape.fields`: the fields of a pod besides its version and its kind.
-/

namespace Evidence.Kubernetes.PodShape

open Shape

/-! ## Metadata and references -/

/-- A requirement on labels. -/
def labelSelectorRequirement : Shape :=
  .object [req "key" text, req "operator" text, opt "values" (list text)]

/-- A choice of objects by their labels. -/
def labelSelector : Shape :=
  .object [opt "matchExpressions" (list labelSelectorRequirement), opt "matchLabels" (map text)]

/-- A reference to an object of the same namespace. -/
def localReference : Shape :=
  .object [req "name" text]

/-- An object that owns another. -/
def ownerReference : Shape :=
  .object [
    req "apiVersion" text, opt "blockOwnerDeletion" bool, opt "controller" bool, req "kind" text,
    req "name" text, req "uid" text]

/-- What one manager has set of an object. -/
def managedFields : Shape :=
  .object [
    opt "apiVersion" text, opt "fieldsType" text, opt "fieldsV1" any, opt "manager" text,
    opt "operation" text, opt "subresource" text, opt "time" time]

/-- The metadata of an object. -/
def metadata : Shape :=
  .object [
    opt "annotations" (map text), opt "creationTimestamp" time,
    opt "deletionGracePeriodSeconds" (int 64), opt "deletionTimestamp" time,
    opt "finalizers" (list text), opt "generateName" text, opt "generation" (int 64),
    opt "labels" (map text), opt "managedFields" (list managedFields), opt "name" text,
    opt "namespace" text, opt "ownerReferences" (list ownerReference),
    opt "resourceVersion" text, opt "selfLink" text, opt "uid" text]

/-! ## Scheduling -/

/-- A requirement on nodes. -/
def nodeSelectorRequirement : Shape :=
  .object [req "key" text, req "operator" text, opt "values" (list text)]

/-- Requirements on a node that hold together. -/
def nodeSelectorTerm : Shape :=
  .object [
    opt "matchExpressions" (list nodeSelectorRequirement),
    opt "matchFields" (list nodeSelectorRequirement)]

/-- Terms of which one must hold. -/
def nodeSelector : Shape :=
  .object [req "nodeSelectorTerms" (list nodeSelectorTerm)]

/-- A term with a weight. -/
def preferredSchedulingTerm : Shape :=
  .object [req "preference" nodeSelectorTerm, req "weight" (int 32)]

/-- Which nodes a pod goes to. -/
def nodeAffinity : Shape :=
  .object [
    opt "preferredDuringSchedulingIgnoredDuringExecution" (list preferredSchedulingTerm),
    opt "requiredDuringSchedulingIgnoredDuringExecution" nodeSelector]

/-- A choice of pods in a topology. -/
def podAffinityTerm : Shape :=
  .object [
    opt "labelSelector" labelSelector, opt "matchLabelKeys" (list text),
    opt "mismatchLabelKeys" (list text), opt "namespaceSelector" labelSelector,
    opt "namespaces" (list text), req "topologyKey" text]

/-- A choice of pods with a weight. -/
def weightedPodAffinityTerm : Shape :=
  .object [req "podAffinityTerm" podAffinityTerm, req "weight" (int 32)]

/-- Which pods a pod goes near to, or away from. -/
def podAffinity : Shape :=
  .object [
    opt "preferredDuringSchedulingIgnoredDuringExecution" (list weightedPodAffinityTerm),
    opt "requiredDuringSchedulingIgnoredDuringExecution" (list podAffinityTerm)]

/-- Where a pod goes. -/
def affinity : Shape :=
  .object [
    opt "nodeAffinity" nodeAffinity, opt "podAffinity" podAffinity,
    opt "podAntiAffinity" podAffinity]

/-- A taint of nodes that a pod bears. -/
def toleration : Shape :=
  .object [
    opt "effect" text, opt "key" text, opt "operator" text, opt "tolerationSeconds" (int 64),
    opt "value" text]

/-- How pods are spread over a topology. -/
def topologySpreadConstraint : Shape :=
  .object [
    opt "labelSelector" labelSelector, opt "matchLabelKeys" (list text), req "maxSkew" (int 32),
    opt "minDomains" (int 32), opt "nodeAffinityPolicy" text, opt "nodeTaintsPolicy" text,
    req "topologyKey" text, req "whenUnsatisfiable" text]

/-! ## Security -/

/-- A profile of confinement. -/
def profile : Shape :=
  .object [opt "localhostProfile" text, req "type" text]

/-- Capabilities that are given and taken. -/
def capabilities : Shape :=
  .object [opt "add" (list text), opt "drop" (list text)]

/-- Labels of a security policy. -/
def linuxOptions : Shape :=
  .object [opt "level" text, opt "role" text, opt "type" text, opt "user" text]

/-- Security of processes on Windows. -/
def windowsOptions : Shape :=
  .object [
    opt "gmsaCredentialSpec" text, opt "gmsaCredentialSpecName" text, opt "hostProcess" bool,
    opt "runAsUserName" text]

/-- Security of a container. -/
def securityContext : Shape :=
  .object [
    opt "allowPrivilegeEscalation" bool, opt "appArmorProfile" profile,
    opt "capabilities" capabilities, opt "privileged" bool, opt "procMount" text,
    opt "readOnlyRootFilesystem" bool, opt "runAsGroup" (int 64), opt "runAsNonRoot" bool,
    opt "runAsUser" (int 64), opt "seLinuxOptions" linuxOptions, opt "seccompProfile" profile,
    opt "windowsOptions" windowsOptions]

/-- A kernel parameter. -/
def sysctl : Shape :=
  .object [req "name" text, req "value" text]

/-- Security of a pod. -/
def podSecurityContext : Shape :=
  .object [
    opt "appArmorProfile" profile, opt "fsGroup" (int 64), opt "fsGroupChangePolicy" text,
    opt "runAsGroup" (int 64), opt "runAsNonRoot" bool, opt "runAsUser" (int 64),
    opt "seLinuxOptions" linuxOptions, opt "seccompProfile" profile,
    opt "supplementalGroups" (list (int 64)), opt "sysctls" (list sysctl),
    opt "windowsOptions" windowsOptions]

/-! ## Containers -/

/-- A field of a pod. -/
def fieldSelector : Shape :=
  .object [opt "apiVersion" text, req "fieldPath" text]

/-- A resource of a container. -/
def resourceSelector : Shape :=
  .object [opt "containerName" text, opt "divisor" quantity, req "resource" text]

/-- A key of a config map or a secret. -/
def keySelector : Shape :=
  .object [req "key" text, req "name" text, opt "optional" bool]

/-- Where the value of a variable comes from. -/
def variableSource : Shape :=
  .object [
    opt "configMapKeyRef" keySelector, opt "fieldRef" fieldSelector,
    opt "resourceFieldRef" resourceSelector, opt "secretKeyRef" keySelector]

/-- A variable of the environment. -/
def envVar : Shape :=
  .object [req "name" text, opt "value" text, opt "valueFrom" variableSource]

/-- A config map or a secret with variables. -/
def variablesReference : Shape :=
  .object [req "name" text, opt "optional" bool]

/-- Where several variables come from. -/
def variablesSource : Shape :=
  .object [
    opt "configMapRef" variablesReference, opt "prefix" text, opt "secretRef" variablesReference]

/-- A command to run. -/
def execAction : Shape :=
  .object [opt "command" (list text)]

/-- A header of a request. -/
def header : Shape :=
  .object [req "name" text, req "value" text]

/-- A request to send. -/
def httpAction : Shape :=
  .object [
    opt "host" text, opt "httpHeaders" (list header), opt "path" text, req "port" intOrText,
    opt "scheme" text]

/-- A time to wait. -/
def sleepAction : Shape :=
  .object [req "seconds" (int 64)]

/-- A socket to open. -/
def socketAction : Shape :=
  .object [opt "host" text, req "port" intOrText]

/-- A remote call. -/
def callAction : Shape :=
  .object [req "port" (int 32), opt "service" text]

/-- What is done at a point of the life of a container. -/
def lifecycleHandler : Shape :=
  .object [
    opt "exec" execAction, opt "httpGet" httpAction, opt "sleep" sleepAction,
    opt "tcpSocket" socketAction]

/-- Handlers for the life of a container. -/
def lifecycle : Shape :=
  .object [opt "postStart" lifecycleHandler, opt "preStop" lifecycleHandler]

/-- A check of a container. -/
def probe : Shape :=
  .object [
    opt "exec" execAction, opt "failureThreshold" (int 32), opt "grpc" callAction,
    opt "httpGet" httpAction, opt "initialDelaySeconds" (int 32), opt "periodSeconds" (int 32),
    opt "successThreshold" (int 32), opt "tcpSocket" socketAction,
    opt "terminationGracePeriodSeconds" (int 64), opt "timeoutSeconds" (int 32)]

/-- A port of a container. -/
def port : Shape :=
  .object [
    req "containerPort" (int 32), opt "hostIP" text, opt "hostPort" (int 32), opt "name" text,
    opt "protocol" text]

/-- What a change of a resource asks for. -/
def resizePolicy : Shape :=
  .object [req "resourceName" text, req "restartPolicy" text]

/-- A thing that has a name and nothing else. -/
def named : Shape :=
  .object [req "name" text]

/-- Amounts of resources. -/
def amounts : Shape :=
  .map quantity

/-- Resources of a container. -/
def resources : Shape :=
  .object [opt "claims" (list named), opt "limits" amounts, opt "requests" amounts]

/-- A block device of a container. -/
def volumeDevice : Shape :=
  .object [req "devicePath" text, req "name" text]

/-- A volume in the tree of a container. -/
def volumeMount : Shape :=
  .object [
    req "mountPath" text, opt "mountPropagation" text, req "name" text, opt "readOnly" bool,
    opt "recursiveReadOnly" text, opt "subPath" text, opt "subPathExpr" text]

/-- Fields that come first in every kind of container. -/
def containerHead : List Field :=
  [opt "args" (list text), opt "command" (list text), opt "env" (list envVar),
   opt "envFrom" (list variablesSource), opt "image" text, opt "imagePullPolicy" text,
   opt "lifecycle" lifecycle, opt "livenessProbe" probe, req "name" text,
   opt "ports" (list port), opt "readinessProbe" probe, opt "resizePolicy" (list resizePolicy),
   opt "resources" resources, opt "restartPolicy" text, opt "securityContext" securityContext,
   opt "startupProbe" probe, opt "stdin" bool, opt "stdinOnce" bool]

/-- Fields that come last in every kind of container. -/
def containerTail : List Field :=
  [opt "terminationMessagePath" text, opt "terminationMessagePolicy" text, opt "tty" bool,
   opt "volumeDevices" (list volumeDevice), opt "volumeMounts" (list volumeMount),
   opt "workingDir" text]

/-- A container. -/
def container : Shape :=
  .object (containerHead ++ containerTail)

/-- A container that is added to a running pod. -/
def ephemeralContainer : Shape :=
  .object (containerHead ++ opt "targetContainerName" text :: containerTail)

/-! ## Volumes -/

/-- A key and the path of its file. -/
def keyToPath : Shape :=
  .object [req "key" text, opt "mode" (int 32), req "path" text]

/-- A file with a field of a pod. -/
def downwardFile : Shape :=
  .object [
    opt "fieldRef" fieldSelector, opt "mode" (int 32), req "path" text,
    opt "resourceFieldRef" resourceSelector]

/-- An AWS volume. -/
def awsStore : Shape :=
  .object [
    opt "fsType" text, opt "partition" (int 32), opt "readOnly" bool, req "volumeID" text]

/-- An Azure disk. -/
def azureDisk : Shape :=
  .object [
    opt "cachingMode" text, req "diskName" text, req "diskURI" text, opt "fsType" text,
    opt "kind" text, opt "readOnly" bool]

/-- An Azure file share. -/
def azureFile : Shape :=
  .object [opt "readOnly" bool, req "secretName" text, req "shareName" text]

/-- A Ceph file system. -/
def cephfs : Shape :=
  .object [
    req "monitors" (list text), opt "path" text, opt "readOnly" bool, opt "secretFile" text,
    opt "secretRef" localReference, opt "user" text]

/-- A Cinder volume. -/
def cinder : Shape :=
  .object [
    opt "fsType" text, opt "readOnly" bool, opt "secretRef" localReference, req "volumeID" text]

/-- A config map as files. -/
def configMapVolume : Shape :=
  .object [
    opt "defaultMode" (int 32), opt "items" (list keyToPath), req "name" text,
    opt "optional" bool]

/-- A volume of a storage driver. -/
def csi : Shape :=
  .object [
    req "driver" text, opt "fsType" text, opt "nodePublishSecretRef" localReference,
    opt "readOnly" bool, opt "volumeAttributes" (map text)]

/-- Fields of a pod as files. -/
def downwardVolume : Shape :=
  .object [opt "defaultMode" (int 32), opt "items" (list downwardFile)]

/-- A directory that starts empty. -/
def emptyDir : Shape :=
  .object [opt "medium" text, opt "sizeLimit" quantity]

/-- A reference to an object of some kind. -/
def typedReference : Shape :=
  .object [opt "apiGroup" text, req "kind" text, req "name" text]

/-- A reference to an object of some kind in a namespace. -/
def namespacedReference : Shape :=
  .object [opt "apiGroup" text, req "kind" text, req "name" text, opt "namespace" text]

/-- Resources of a volume. -/
def volumeResources : Shape :=
  .object [opt "limits" amounts, opt "requests" amounts]

/-- A claim of a volume. -/
def claim : Shape :=
  .object [
    opt "accessModes" (list text), opt "dataSource" typedReference,
    opt "dataSourceRef" namespacedReference, opt "resources" volumeResources,
    opt "selector" labelSelector, opt "storageClassName" text,
    opt "volumeAttributesClassName" text, opt "volumeMode" text, opt "volumeName" text]

/-- A claim that is made for a pod. -/
def claimTemplate : Shape :=
  .object [opt "metadata" metadata, req "spec" claim]

/-- A volume that lives as long as its pod. -/
def ephemeralVolume : Shape :=
  .object [opt "volumeClaimTemplate" claimTemplate]

/-- A Fibre Channel volume. -/
def fibreChannel : Shape :=
  .object [
    opt "fsType" text, opt "lun" (int 32), opt "readOnly" bool, opt "targetWWNs" (list text),
    opt "wwids" (list text)]

/-- A volume of a flexible driver. -/
def flexVolume : Shape :=
  .object [
    req "driver" text, opt "fsType" text, opt "options" (map text), opt "readOnly" bool,
    opt "secretRef" localReference]

/-- A Flocker volume. -/
def flocker : Shape :=
  .object [opt "datasetName" text, opt "datasetUUID" text]

/-- A Google disk. -/
def gceDisk : Shape :=
  .object [opt "fsType" text, opt "partition" (int 32), req "pdName" text, opt "readOnly" bool]

/-- A repository. -/
def gitRepo : Shape :=
  .object [opt "directory" text, req "repository" text, opt "revision" text]

/-- A Gluster file system. -/
def glusterfs : Shape :=
  .object [req "endpoints" text, req "path" text, opt "readOnly" bool]

/-- A path of the node. -/
def hostPath : Shape :=
  .object [req "path" text, opt "type" text]

/-- An iSCSI disk. -/
def iscsi : Shape :=
  .object [
    opt "chapAuthDiscovery" bool, opt "chapAuthSession" bool, opt "fsType" text,
    opt "initiatorName" text, req "iqn" text, opt "iscsiInterface" text, req "lun" (int 32),
    opt "portals" (list text), opt "readOnly" bool, opt "secretRef" localReference,
    req "targetPortal" text]

/-- A network file system. -/
def nfs : Shape :=
  .object [req "path" text, opt "readOnly" bool, req "server" text]

/-- A claim in use. -/
def claimReference : Shape :=
  .object [req "claimName" text, opt "readOnly" bool]

/-- A Photon disk. -/
def photonDisk : Shape :=
  .object [opt "fsType" text, req "pdID" text]

/-- A Portworx volume. -/
def portworx : Shape :=
  .object [opt "fsType" text, opt "readOnly" bool, req "volumeID" text]

/-- Certificates as a file. -/
def trustBundle : Shape :=
  .object [
    opt "labelSelector" labelSelector, opt "name" text, opt "optional" bool, req "path" text,
    opt "signerName" text]

/-- Keys of a config map or a secret among other files. -/
def keysProjection : Shape :=
  .object [opt "items" (list keyToPath), req "name" text, opt "optional" bool]

/-- Fields of a pod among other files. -/
def downwardProjection : Shape :=
  .object [opt "items" (list downwardFile)]

/-- A token among other files. -/
def tokenProjection : Shape :=
  .object [opt "audience" text, opt "expirationSeconds" (int 64), req "path" text]

/-- A source of files. -/
def projection : Shape :=
  .object [
    opt "clusterTrustBundle" trustBundle, opt "configMap" keysProjection,
    opt "downwardAPI" downwardProjection, opt "secret" keysProjection,
    opt "serviceAccountToken" tokenProjection]

/-- Files of several sources. -/
def projected : Shape :=
  .object [opt "defaultMode" (int 32), opt "sources" (list projection)]

/-- A Quobyte volume. -/
def quobyte : Shape :=
  .object [
    opt "group" text, opt "readOnly" bool, req "registry" text, opt "tenant" text,
    opt "user" text, req "volume" text]

/-- A Ceph block device. -/
def rbd : Shape :=
  .object [
    opt "fsType" text, req "image" text, opt "keyring" text, req "monitors" (list text),
    opt "pool" text, opt "readOnly" bool, opt "secretRef" localReference, opt "user" text]

/-- A ScaleIO volume. -/
def scaleIO : Shape :=
  .object [
    opt "fsType" text, req "gateway" text, opt "protectionDomain" text, opt "readOnly" bool,
    req "secretRef" localReference, opt "sslEnabled" bool, opt "storageMode" text,
    opt "storagePool" text, req "system" text, opt "volumeName" text]

/-- A secret as files. -/
def secretVolume : Shape :=
  .object [
    opt "defaultMode" (int 32), opt "items" (list keyToPath), opt "optional" bool,
    opt "secretName" text]

/-- A StorageOS volume. -/
def storageos : Shape :=
  .object [
    opt "fsType" text, opt "readOnly" bool, opt "secretRef" localReference,
    opt "volumeName" text, opt "volumeNamespace" text]

/-- A vSphere disk. -/
def vsphereDisk : Shape :=
  .object [
    opt "fsType" text, opt "storagePolicyID" text, opt "storagePolicyName" text,
    req "volumePath" text]

/-- A volume of a pod. -/
def volume : Shape :=
  .object [
    opt "awsElasticBlockStore" awsStore, opt "azureDisk" azureDisk, opt "azureFile" azureFile,
    opt "cephfs" cephfs, opt "cinder" cinder, opt "configMap" configMapVolume, opt "csi" csi,
    opt "downwardAPI" downwardVolume, opt "emptyDir" emptyDir, opt "ephemeral" ephemeralVolume,
    opt "fc" fibreChannel, opt "flexVolume" flexVolume, opt "flocker" flocker,
    opt "gcePersistentDisk" gceDisk, opt "gitRepo" gitRepo, opt "glusterfs" glusterfs,
    opt "hostPath" hostPath, opt "iscsi" iscsi, req "name" text, opt "nfs" nfs,
    opt "persistentVolumeClaim" claimReference, opt "photonPersistentDisk" photonDisk,
    opt "portworxVolume" portworx, opt "projected" projected, opt "quobyte" quobyte,
    opt "rbd" rbd, opt "scaleIO" scaleIO, opt "secret" secretVolume,
    opt "storageos" storageos, opt "vsphereVolume" vsphereDisk]

/-! ## The specification of a pod -/

/-- An option of name resolution. -/
def resolverOption : Shape :=
  .object [opt "name" text, opt "value" text]

/-- Name resolution of a pod. -/
def resolver : Shape :=
  .object [
    opt "nameservers" (list text), opt "options" (list resolverOption),
    opt "searches" (list text)]

/-- Names of an address. -/
def hostAlias : Shape :=
  .object [opt "hostnames" (list text), req "ip" text]

/-- A condition that a pod waits for. -/
def readinessGate : Shape :=
  .object [req "conditionType" text]

/-- Where a claim of a pod comes from. -/
def claimSource : Shape :=
  .object [opt "resourceClaimName" text, opt "resourceClaimTemplateName" text]

/-- A claim of a pod. -/
def podResourceClaim : Shape :=
  .object [req "name" text, opt "source" claimSource]

/-- The specification of a pod. -/
def spec : Shape :=
  .object [
    opt "activeDeadlineSeconds" (int 64), opt "affinity" affinity,
    opt "automountServiceAccountToken" bool, req "containers" (list container),
    opt "dnsConfig" resolver, opt "dnsPolicy" text, opt "enableServiceLinks" bool,
    opt "ephemeralContainers" (list ephemeralContainer), opt "hostAliases" (list hostAlias),
    opt "hostIPC" bool, opt "hostNetwork" bool, opt "hostPID" bool, opt "hostUsers" bool,
    opt "hostname" text, opt "imagePullSecrets" (list localReference),
    opt "initContainers" (list container), opt "nodeName" text, opt "nodeSelector" (map text),
    opt "os" named, opt "overhead" amounts, opt "preemptionPolicy" text,
    opt "priority" (int 32), opt "priorityClassName" text,
    opt "readinessGates" (list readinessGate), opt "resourceClaims" (list podResourceClaim),
    opt "restartPolicy" text, opt "runtimeClassName" text, opt "schedulerName" text,
    opt "schedulingGates" (list named), opt "securityContext" podSecurityContext,
    opt "serviceAccount" text, opt "serviceAccountName" text, opt "setHostnameAsFQDN" bool,
    opt "shareProcessNamespace" bool, opt "subdomain" text,
    opt "terminationGracePeriodSeconds" (int 64), opt "tolerations" (list toleration),
    opt "topologySpreadConstraints" (list topologySpreadConstraint), opt "volumes" (list volume)]

/-! ## The status of a pod -/

/-- A condition of a pod. -/
def podCondition : Shape :=
  .object [
    opt "lastProbeTime" time, opt "lastTransitionTime" time, opt "message" text,
    opt "reason" text, req "status" text, req "type" text]

/-- An address. -/
def address : Shape :=
  .object [req "ip" text]

/-- A container that runs. -/
def running : Shape :=
  .object [opt "startedAt" time]

/-- A container that has ended. -/
def terminated : Shape :=
  .object [
    opt "containerID" text, req "exitCode" (int 32), opt "finishedAt" time, opt "message" text,
    opt "reason" text, opt "signal" (int 32), opt "startedAt" time]

/-- A container that has not started. -/
def waiting : Shape :=
  .object [opt "message" text, opt "reason" text]

/-- What a container does. -/
def containerState : Shape :=
  .object [opt "running" running, opt "terminated" terminated, opt "waiting" waiting]

/-- A volume as it is mounted. -/
def mountStatus : Shape :=
  .object [
    req "mountPath" text, req "name" text, opt "readOnly" bool, opt "recursiveReadOnly" text]

/-- The status of a container. -/
def containerStatus : Shape :=
  .object [
    opt "allocatedResources" amounts, opt "containerID" text, req "image" text,
    req "imageID" text, opt "lastState" containerState, req "name" text, req "ready" bool,
    opt "resources" resources, req "restartCount" (int 32), opt "started" bool,
    opt "state" containerState, opt "volumeMounts" (list mountStatus)]

/-- The status of a claim. -/
def claimStatus : Shape :=
  .object [req "name" text, opt "resourceClaimName" text]

/-- The status of a pod. -/
def status : Shape :=
  .object [
    opt "conditions" (list podCondition), opt "containerStatuses" (list containerStatus),
    opt "ephemeralContainerStatuses" (list containerStatus), opt "hostIP" text,
    opt "hostIPs" (list address), opt "initContainerStatuses" (list containerStatus),
    opt "message" text, opt "nominatedNodeName" text, opt "phase" text, opt "podIP" text,
    opt "podIPs" (list address), opt "qosClass" text, opt "reason" text, opt "resize" text,
    opt "resourceClaimStatuses" (list claimStatus), opt "startTime" time]

/-- The fields of a pod besides its version and its kind. -/
def fields : List Field :=
  [req "metadata" metadata, opt "spec" spec, opt "status" status]

end Evidence.Kubernetes.PodShape
