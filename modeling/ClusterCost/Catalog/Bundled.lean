import ClusterCost.Catalog.Basic

/-!
# The bundled catalog

List prices in US dollars of the machines of one region, for use where no catalog is given. Processor prices are per core
and hour, memory prices per gibibyte and hour, all others per hour; discounts are the ratio of the preemptible to the
on-demand price.
-/
namespace ClusterCost.Catalog

def bundled : Catalog where
  cpuPrice := 0.033174
  memoryPrice := 0.004446
  gpuPrice := 0.700
  discount := 0.2104
  predefinedCpu := .ofEntries [
    ("c2", 0.03398), ("e2", 0.021811), ("m1", 0.0348), ("n1", 0.031611), ("n2", 0.031611), ("n2d", 0.027502),
    ("t2d", 0.027502)]
  customCpu := .ofEntries [
    ("e2", 0.022890), ("n1", 0.033174), ("n2", 0.033174), ("n2d", 0.028877)]
  predefinedMemory := .ofEntries [
    ("c2", 0.00455), ("e2", 0.002923), ("m1", 0.0051), ("n1", 0.004237), ("n2", 0.004237), ("n2d", 0.003686),
    ("t2d", 0.003686)]
  customMemory := .ofEntries [
    ("e2", 0.003067), ("n1", 0.004446), ("n2", 0.004446), ("n2d", 0.003870)]
  instances := .ofEntries [
    ("c2-standard-4", 0.2088), ("c2-standard-8", 0.4176), ("e2-standard-2", 0.067006), ("e2-standard-4", 0.134012),
    ("e2-standard-8", 0.268024), ("n1-highmem-2", 0.1184), ("n1-highmem-4", 0.2368), ("n1-standard-1", 0.0475),
    ("n1-standard-2", 0.0950), ("n1-standard-4", 0.1900), ("n1-standard-8", 0.3800), ("n2-standard-2", 0.0971),
    ("n2-standard-4", 0.1942), ("n2-standard-8", 0.3885)]
  preemptibleInstances := .ofEntries [
    ("c2-standard-4", 0.0505), ("c2-standard-8", 0.1011), ("e2-standard-2", 0.020102), ("e2-standard-4", 0.040204),
    ("e2-standard-8", 0.080408), ("n1-highmem-2", 0.0250), ("n1-highmem-4", 0.0500), ("n1-standard-1", 0.0100),
    ("n1-standard-2", 0.0200), ("n1-standard-4", 0.0400), ("n1-standard-8", 0.0800), ("n2-standard-2", 0.0235),
    ("n2-standard-4", 0.0470), ("n2-standard-8", 0.0940)]
  gpus := .ofEntries [
    ("nvidia-a100-80gb", 3.92808), ("nvidia-l4", 0.56), ("nvidia-tesla-a100", 2.933908),
    ("nvidia-tesla-k80", 0.45), ("nvidia-tesla-p100", 1.46), ("nvidia-tesla-p4", 0.6), ("nvidia-tesla-t4", 0.35),
    ("nvidia-tesla-v100", 2.48)]
  preemptibleGpus := .ofEntries [
    ("nvidia-a100-80gb", 1.57), ("nvidia-l4", 0.2), ("nvidia-tesla-a100", 0.87), ("nvidia-tesla-k80", 0.135),
    ("nvidia-tesla-p100", 0.43), ("nvidia-tesla-p4", 0.216), ("nvidia-tesla-t4", 0.11),
    ("nvidia-tesla-v100", 0.74)]
  predefinedDiscount := .ofEntries [
    ("c2", 0.2419), ("e2", 0.3), ("n1", 0.2104), ("n2", 0.2420), ("n2d", 0.2420)]
  customDiscount := .ofEntries [
    ("e2", 0.3), ("n1", 0.2104), ("n2", 0.2420), ("n2d", 0.2420)]

end ClusterCost.Catalog
